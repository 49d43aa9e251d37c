import GatedStartup.Configuration
import GatedStartup.Failure

/-! Errors of a command, with the exit code each ends with. Codes from 64 on are those of
`sysexits`. -/
namespace GatedStartup

inductive CommandError where
  | io (reason : String)
  | configuration (reason : String)
  | activation (reason : String)
  | search (reason : String)
deriving DecidableEq, Repr

namespace CommandError

def message : CommandError → String
  | .io reason => "IO error: " ++ reason
  | .configuration reason => "Configuration error: " ++ reason
  | .activation reason => "Security activation failed: " ++ reason
  | .search reason => "Search engine error: " ++ reason

def exitCode : CommandError → Nat
  | .search _ => 69
  | .io _ => 74
  | .activation _ => 77
  | .configuration _ => 78

def ofConfigurationError (error : ConfigurationError) : CommandError :=
  .configuration error.message

def ofFailure : Failure → CommandError
  | .configuration error => ofConfigurationError error
  | .activation error => .activation error.message
  | .search error => .search error.message

def ofFault (fault : Json.Fault) : CommandError := .configuration fault.message

end CommandError
end GatedStartup
