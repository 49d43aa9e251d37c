import GatedStartup.Index.Description
import GatedStartup.Property.Json
import GatedStartup.Property.Text
import GatedStartup.Security.Manager
import GatedStartup.Startup

/-! The texts a dry run is reported with. -/
namespace GatedStartup

open Index

def Gates.text (g : Gates) (capability : String) (realms : List String) : String :=
  let state (on : Bool) := if on then "on" else "off"
  "integration (" ++ capability ++ "): " ++ (if g.integrationPresent then "present" else "absent") ++
    "\n  realm lifecycle hooks: " ++ state g.integrationPresent ++
    "\nrealms: " ++ (if realms.isEmpty then "none" else ", ".intercalate realms) ++
    "\n  security manager: " ++ state g.realmsConfigured ++ "\n"

namespace Startup.Report

def realms (r : Report) : List String :=
  match r.manager with
  | none => []
  | some manager => realmNames manager.realms

def handleLine (h : Handle) : String :=
  "  " ++ h.name ++ " on " ++ h.regionPath ++ " [" ++ ", ".intercalate h.fields.toNames ++ "]\n"

/-- `enforced` is whether the engine enforces security. -/
def text (r : Report) (enforced : Bool) : String :=
  "security: " ++
    (if enforced then "enforced (" ++ ", ".intercalate r.realms ++ ")" else "inactive") ++
    "\nproperties: " ++ toString r.properties.size ++ "\n" ++
    String.join (r.properties.entries.map fun entry =>
      "  " ++ entry.1 ++ " = " ++ entry.2 ++ "\n") ++
    "indexes: " ++ toString r.indexes.length ++ "\n" ++
    String.join (r.indexes.map handleLine)

def json (r : Report) (enforced : Bool) : Json.Value :=
  .members [
    ("integrationPresent", .boolean r.gates.integrationPresent),
    ("realmsConfigured", .boolean r.gates.realmsConfigured),
    ("securityEnforced", .boolean enforced),
    ("realms", .texts r.realms),
    ("properties", .list (r.properties.entries.map fun entry => .texts [entry.1, entry.2])),
    ("indexes", .list (r.indexes.map Handle.json))]

def jsonText (r : Report) (enforced : Bool) : String := (r.json enforced).pretty

def describe (describeRealm : Realm → String) (r : Report) : String :=
  Text.record "BootstrapReport"
    [("gates", r.gates.describe),
      ("properties", r.properties.describe),
      ("security_manager", Text.optional (r.manager.map (Manager.describe describeRealm))),
      ("indexes", Text.bracketed (r.indexes.map Handle.describe))] false

end Startup.Report
end GatedStartup
