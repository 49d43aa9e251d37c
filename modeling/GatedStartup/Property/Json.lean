import GatedStartup.Json.Layout
import GatedStartup.Property.Set
import GatedStartup.Table

/-! Property sets as a JSON object of strings, keys in order. -/
namespace GatedStartup.PropertySet

/-- The pairs in key order. -/
def table (p : PropertySet) : Table String String := Table.ofList p.entries

def json (p : PropertySet) : Json.Value :=
  .members (p.table.entries.map fun entry => (entry.1, .text entry.2))

def jsonText (p : PropertySet) : String := p.json.pretty

end GatedStartup.PropertySet
