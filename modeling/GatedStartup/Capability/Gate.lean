import GatedStartup.Request

/-! Gates of the optional parts. One asks the environment for a capability, the other whether
any realm is configured. Nothing is remembered between two looks. -/
namespace GatedStartup

/-- The capability that lets realms be started and stopped. -/
def securityIntegration : String := "security-integration"

structure Gates where
  integrationPresent : Bool
  realmsConfigured : Bool
deriving DecidableEq, Repr

structure Gate where
  probe : Ref .probe
  capability : String
deriving DecidableEq, Repr

def realmsConfigured (realms : List Realm) : Bool := !realms.isEmpty

def Gates.describe (g : Gates) : String :=
  Text.record "GateDecision"
    [("integration_present", Text.boolean g.integrationPresent),
      ("realms_configured", Text.boolean g.realmsConfigured)] false

namespace Gate

def evaluate (g : Gate) (realms : List Realm) : Work Gates := do
  let present ← ask (.probe g.probe g.capability)
  pure ⟨present, realmsConfigured realms⟩

def describe (g : Gate) : String :=
  Text.record "ConditionGate" [("capability", Text.quoted g.capability)] true

end Gate
end GatedStartup
