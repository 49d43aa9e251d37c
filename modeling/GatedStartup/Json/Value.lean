/-! JSON values as a text shows them. A value keeps what a reader may still reject: strings with
half a surrogate pair, numbers of any size, and containers whose text breaks off. Whether such a
part matters is decided by the reading of it. -/
namespace GatedStartup.Json

/-- The digits of a number as written. `exponent` holds its sign (`true` for minus) and digits. -/
structure Numeral where
  negative : Bool
  whole : List Nat
  fraction : Option (List Nat)
  exponent : Option (Bool × List Nat)
deriving DecidableEq, Repr

/-- The text of a string, or nothing when an escape in it stands for half a character of its own. -/
abbrev Literal := Option String

/-- `closed` is false when the text of the container breaks off or goes wrong after the parts
it lists; `broken` stands where no value could be made out. -/
inductive Value where
  | null
  | boolean (b : Bool)
  | number (n : Numeral)
  | string (text : Literal)
  | array (items : List Value) (closed : Bool)
  | object (members : List (Literal × Value)) (closed : Bool)
  | broken
deriving Repr, Inhabited

namespace Value

def text (s : String) : Value := .string (some s)

def list (items : List Value) : Value := .array items true

def texts (items : List String) : Value := list (items.map text)

def members (parts : List (String × Value)) : Value :=
  .object (parts.map fun part => (some part.1, part.2)) true

end Value
end GatedStartup.Json
