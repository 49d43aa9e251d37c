import GatedStartup.Configuration
import GatedStartup.Rehearsal.Stage
import GatedStartup.Startup

/-! A dry run composed from a configuration. The regions named by its declarations are created
beforehand, the cache is found through the component registry, and the integrations it lists
are added to those of the environment. -/
namespace GatedStartup

open Engine Index Lookup

namespace EnvironmentProbe

/-- The list of integrations in the environment, followed by the configured ones. -/
def mergedVariables (configured : List String) (environment : String → Option String)
    (name : String) : Option String :=
  let list := ",".intercalate configured
  if name != integrationsVariable || list.isEmpty then environment name
  else
    match environment name with
    | none => some list
    | some declared => some (if Text.isBlank declared then list else declared ++ "," ++ list)

/-- The probe of the environment with the configured integrations added. -/
def configured (integrations : List String) (environment : String → Option String)
    (programs : String → Bool) : EnvironmentProbe :=
  builtIn (mergedVariables integrations environment) programs

end EnvironmentProbe

structure Rehearsal where
  setting : Rehearsal.Setting
  collaborators : Collaborators
  startup : Startup
  stage : Rehearsal.Stage

namespace Rehearsal

def createRegions (declarations : List Declaration) : Regions :=
  declarations.foldl
    (fun regions declaration =>
      match declaration.definition.configuredPath? with
      | none => regions
      | some path => (regions.create path).2)
    .empty

/-- Realms are numbered by their place. -/
def realmsOf (accounts : List Accounts) : List Realm :=
  accounts.zipIdx.map fun entry => ⟨entry.2, entry.1.name⟩

def settingOf (c : Configuration) (environment : String → Option String)
    (programs : String → Bool) : Setting where
  probe := .configured c.integrations environment programs
  accounts := c.realms
  directory := Directory.empty.register c.component (.cache theCache)

def startupOf (c : Configuration) : Startup :=
  { Startup.fresh c.component theProbe (.inactive 0 theSlot theSwitch) with
    realms := realmsOf c.realms
    attributes := c.attributes }

def stageOf (c : Configuration) (slot : Option Manager) : Stage :=
  ⟨createRegions c.indexes, .empty, false, slot, []⟩

/-- Registers declarations in order, up to the first that has no name. -/
def registerAll (s : Startup) : List Declaration → Work (Except ConfigurationError Unit × Startup)
  | [] => pure (.ok (), s)
  | declaration :: rest => do
    match ← s.register declaration.component declaration.definition with
    | (.error error, s) => pure (.error error, s)
    | (.ok _, s) => registerAll s rest

/-- `slot` is what the slot of the process holds. -/
def compose (c : Configuration) (slot : Option Manager) (environment : String → Option String)
    (programs : String → Bool) : Except ConfigurationError Rehearsal :=
  let setting := settingOf c environment programs
  let outcome := (registerAll (startupOf c) c.indexes).run setting.surroundings (stageOf c slot)
  match outcome.1.1 with
  | .error error => .error error
  | .ok () => .ok ⟨setting, ⟨none, none, some theRegistry⟩, outcome.1.2, outcome.2⟩

/-- Does a part of the startup on the stage. -/
def perform (r : Rehearsal) (work : Work (α × Startup)) : α × Rehearsal :=
  let outcome := work.run r.setting.surroundings r.stage
  (outcome.1.1, { r with startup := outcome.1.2, stage := outcome.2 })

def run (r : Rehearsal) : Except Failure Startup.Report × Rehearsal :=
  r.perform (r.startup.run r.collaborators)

def shutdown (r : Rehearsal) : Except Failure Unit × Rehearsal := r.perform r.startup.shutdown

def gates (r : Rehearsal) : Gates := (r.startup.gates.run r.setting.surroundings r.stage).1

/-- The warnings so far, and none left. -/
def takeWarnings (r : Rehearsal) : List Warning × Rehearsal :=
  (r.stage.warnings, { r with stage := { r.stage with warnings := [] } })

end Rehearsal
end GatedStartup
