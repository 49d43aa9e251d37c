import GatedStartup.Json.Value
import GatedStartup.Table

/-! Values with the members of every object in key order. Of members with the same name the last
one stays; members whose name cannot be read are left out. -/
namespace GatedStartup.Json

mutual

def Value.ordered : Value → Value
  | .null => .null
  | .boolean b => .boolean b
  | .number n => .number n
  | .string text => .string text
  | .array items closed => .array (orderedItems items) closed
  | .object members closed =>
    .object ((orderedMembers members).entries.map fun member => (some member.1, member.2)) closed
  | .broken => .broken

def orderedItems : List Value → List Value
  | [] => []
  | v :: rest => v.ordered :: orderedItems rest

def orderedMembers : List (Literal × Value) → Table String Value
  | [] => .empty
  | (none, _) :: rest => orderedMembers rest
  | (some key, v) :: rest =>
    let later := orderedMembers rest
    if later.contains key then later else later.insert key v.ordered

end

end GatedStartup.Json
