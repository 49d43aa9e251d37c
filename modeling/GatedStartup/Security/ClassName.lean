import GatedStartup.Json.Reading
import GatedStartup.Text.Blank

/-! References to implementation classes by name. A blank name is no reference, and names are
kept without white space around them. -/
namespace GatedStartup

inductive ClassName where
  | unset
  | named (name : String)
deriving DecidableEq, Repr, Inhabited

namespace ClassName

def ofOption : Option String → ClassName
  | none => .unset
  | some name =>
    match Text.trimmed? name with
    | none => .unset
    | some name => .named name

def ofName (name : String) : ClassName := ofOption (some name)

def name? : ClassName → Option String
  | .unset => none
  | .named name => some name

def isUnset (c : ClassName) : Bool := c.name?.isNone

/-- Read from a name or `null`. -/
def read : Json.Reader ClassName := fun v => (Json.readOptional Json.readString v).map ofOption

def write : ClassName → Json.Value
  | .unset => .null
  | .named name => .text name

end ClassName
end GatedStartup
