import GatedStartup.Capability.Gate
import GatedStartup.Text.Blank

/-! Detecting capabilities from environment variables and programs on the search path. A
capability is present when a variable lists it, or when one of its detections succeeds. Doubt
means absent. -/
namespace GatedStartup

/-- Lists the capabilities declared present, separated by commas. -/
def integrationsVariable : String := "CACHEGATE_INTEGRATIONS"

inductive Detection where
  /-- The variable is set to a word for yes. -/
  | flag (variableName : String)
  | program (name : String)
deriving DecidableEq, Repr

structure Descriptor where
  name : String
  detections : List Detection
deriving DecidableEq, Repr

structure EnvironmentProbe where
  descriptors : List Descriptor
  environment : String → Option String
  programs : String → Bool

namespace EnvironmentProbe

def securityDescriptor : Descriptor :=
  ⟨securityIntegration, [.flag "CACHEGATE_SECURITY_INTEGRATION", .program "cachegate-security"]⟩

/-- Knows the security integration. -/
def builtIn (environment : String → Option String) (programs : String → Bool) : EnvironmentProbe :=
  ⟨[securityDescriptor], environment, programs⟩

/-- Replaces the descriptor of that name, and comes last. -/
def addDescriptor (p : EnvironmentProbe) (d : Descriptor) : EnvironmentProbe :=
  { p with descriptors := p.descriptors.filter (·.name != d.name) ++ [d] }

def lowerAscii (s : String) : String := String.ofList (s.toList.map Char.toLower)

/-- A word for yes, in any case and with white space around it. -/
def isTruthy (value : String) : Bool :=
  ["1", "true", "yes", "on"].contains (lowerAscii (Text.trim value))

/-- The entries of a comma separated list, without blank ones. -/
def entries (list : String) : List String := (Text.split ',' list).filterMap Text.trimmed?

def declares (p : EnvironmentProbe) (capability : String) : Bool :=
  match p.environment integrationsVariable with
  | none => false
  | some list => (entries list).contains capability

def detects (p : EnvironmentProbe) : Detection → Bool
  | .flag variableName => (p.environment variableName).any isTruthy
  | .program name => p.programs name

def isPresent (p : EnvironmentProbe) (capability : String) : Bool :=
  if Text.isBlank capability then false
  else p.declares capability ||
    (p.descriptors.filter (·.name == capability)).any fun d => d.detections.any p.detects

def describeDetection : Detection → String
  | .flag variableName => "EnvFlag(" ++ Text.quoted variableName ++ ")"
  | .program name => "Binary(" ++ Text.quoted name ++ ")"

def describeDescriptor (d : Descriptor) : String :=
  Text.record "CapabilityDescriptor"
    [("name", Text.quoted d.name),
      ("detections", Text.bracketed (d.detections.map describeDetection))] false

def describe (p : EnvironmentProbe) : String :=
  Text.record "EnvCapabilityProbe"
    [("descriptors", Text.bracketed (p.descriptors.map describeDescriptor))] true

end EnvironmentProbe
end GatedStartup
