import GatedStartup.Json.Number

/-! Taking values apart by what they should be. A value of another kind has no parts, and an
absent member is `null`. -/
namespace GatedStartup.Json.Value

def isNull : Value → Bool
  | .null => true
  | _ => false

/-- The last member of that name. -/
def member : Value → String → Value
  | .object members _, name =>
    ((members.reverse.find? fun m => m.1 == some name).map (·.2)).getD .null
  | _, _ => .null

def item (v : Value) (k : Nat) : Value :=
  match v with
  | .array items _ => items[k]?.getD .null
  | _ => .null

def text? : Value → Option String
  | .string text => text
  | _ => none

def items : Value → List Value
  | .array items _ => items
  | _ => []

/-- The members of an object with a readable name, repeated names included. -/
def pairs : Value → List (String × Value)
  | .object members _ => members.filterMap fun m => m.1.map fun key => (key, m.2)
  | _ => []

def boolean? : Value → Option Bool
  | .boolean b => some b
  | _ => none

def integer? : Value → Option Int
  | .number n =>
    match n.read? with
    | some (.integer value) => some value
    | _ => none
  | _ => none

def asText (v : Value) : String := v.text?.getD ""

def asTexts (v : Value) : List String := v.items.map asText

def isTrue (v : Value) : Bool := v.boolean?.getD false

end GatedStartup.Json.Value
