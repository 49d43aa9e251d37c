import GatedStartup.Capability.Gate
import GatedStartup.Index.Catalogue
import GatedStartup.Property.Assembler
import GatedStartup.Security.Activation
import GatedStartup.Security.Lifecycle

/-! One startup of a cache component. A run looks at the gates, starts the realms, activates
security, assembles the properties and ensures the indexes, in this order. The first failure
ends the run and takes back what there is to take back. A shutdown is done once. -/
namespace GatedStartup

open Lookup Index

structure Startup where
  gate : Gate
  realms : List Realm
  attributes : Attributes
  assembler : Assembler
  activation : Activation
  catalogue : Catalogue
  lifecycle : Lifecycle
  /-- A shutdown has been asked for. -/
  ended : Bool

namespace Startup

/-- What a successful run reports. -/
structure Report where
  gates : Gates
  properties : PropertySet
  manager : Option Manager
  indexes : List Handle
deriving DecidableEq

/-- Nothing configured but the component and its surroundings. -/
def fresh (component : String) (probe : Ref .probe) (activation : Activation) : Startup where
  gate := ⟨probe, securityIntegration⟩
  realms := []
  attributes := .vacant
  assembler := ⟨component, []⟩
  activation := activation
  catalogue := .empty
  lifecycle := .idle
  ended := false

def addRealm (s : Startup) (realm : Realm) : Startup := { s with realms := s.realms ++ [realm] }

/-- Registers an index with the catalogue. -/
def register (s : Startup) (component : String) (d : Definition) :
    Work (Except ConfigurationError (String × Managed) × Startup) := do
  let (registered, catalogue) ← s.catalogue.register component d
  pure (registered, { s with catalogue := catalogue })

def gates (s : Startup) : Work Gates := s.gate.evaluate s.realms

/-- The properties, without activating anything. -/
def properties (s : Startup) : PropertySet :=
  s.assembler.assemble s.attributes (realmsConfigured s.realms)

/-- Starts the realms when the integration is there. -/
def startRealms (s : Startup) (gates : Gates) : Work (Except ActivationError Unit × Startup) :=
  if gates.integrationPresent then do
    let (started, lifecycle) ← s.lifecycle.start s.realms
    pure (started, { s with lifecycle := lifecycle })
  else pure (.ok (), s)

/-- Activates security once the realms are started. -/
def secure (s : Startup) (gates : Gates) :
    Work (Except ActivationError (Option Manager) × Startup) := do
  match ← s.startRealms gates with
  | (.error error, s) => pure (.error error, s)
  | (.ok (), s) =>
    let (activated, activation) ← s.activation.activate s.realms
    pure (activated, { s with activation := activation })

def stopRealms (s : Startup) : Work Startup := do
  let lifecycle ← s.lifecycle.stop
  pure { s with lifecycle := lifecycle }

/-- Destroys what can be destroyed, takes the manager back and stops the realms. -/
def rollback (s : Startup) : Work Startup := do
  let (destroyed, catalogue) ← s.catalogue.destroyAll
  match destroyed with
  | .ok () => pure ()
  | .error error => ask (.warn (.rollbackIncomplete error))
  let (_, activation) ← s.activation.deactivate
  { s with catalogue := catalogue, activation := activation }.stopRealms

def run (k : Collaborators) (s : Startup) : Work (Except Failure Report × Startup) := do
  let gates ← s.gates
  match ← s.secure gates with
  | (.error error, s) =>
    let s ← s.stopRealms
    pure (.error (.activation error), s)
  | (.ok manager, s) =>
    let properties := s.assembler.assemble s.attributes gates.realmsConfigured
    match ← s.catalogue.ensureAll k with
    | (.error error, catalogue) =>
      let s ← { s with catalogue := catalogue }.rollback
      pure (.error error, s)
    | (.ok indexes, catalogue) =>
      pure (.ok ⟨gates, properties, manager, indexes⟩, { s with catalogue := catalogue })

/-- Destroys the indexes that ask for it and stops the realms. Later shutdowns do nothing. -/
def shutdown (s : Startup) : Work (Except Failure Unit × Startup) :=
  if s.ended then pure (.ok (), s)
  else do
    let (destroyed, catalogue) ← s.catalogue.destroyAll
    match destroyed with
    | .ok () => pure ()
    | .error error => ask (.warn (.teardownIncomplete error))
    let s ← { s with catalogue := catalogue, ended := true }.stopRealms
    pure (destroyed, s)

def describe (s : Startup) : String :=
  Text.record "Bootstrap"
    [("gate", s.gate.describe),
      ("realms", Text.bracketed ((realmNames s.realms).map Text.quoted)),
      ("assembler", s.assembler.describe),
      ("indexes", Text.bracketed (s.catalogue.names.map Text.quoted))] true

end Startup
end GatedStartup
