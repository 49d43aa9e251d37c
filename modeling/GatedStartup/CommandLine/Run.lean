import GatedStartup.CommandLine.Arguments
import GatedStartup.CommandLine.Error
import GatedStartup.CommandLine.VariableFile.Loading
import GatedStartup.Rehearsal.Composition
import GatedStartup.Rehearsal.Report

/-! What the command does. A configuration is loaded and a dry run composed from it; then its
properties, its gates, or the report of a full run are shown. -/
namespace GatedStartup.CommandLine

/-- Why a file cannot be read. -/
inductive ReadError where
  | missing | notDirectory | directory | tooLong | notText | other (reason : String)
deriving DecidableEq, Repr

def ReadError.message : ReadError → String
  | .missing => "No such file or directory (os error 2)"
  | .notDirectory => "Not a directory (os error 20)"
  | .directory => "Is a directory (os error 21)"
  | .tooLong => "File name too long (os error 36)"
  | .notText => "stream did not contain valid UTF-8"
  | .other reason => reason

/-- What the command finds around it. -/
structure Terminal where
  environment : Environment
  programs : String → Bool
  read : String → Except ReadError String

def configVariable : String := "CACHEGATE_CONFIG"

def versionText : String := "cachegate 0.3.0\n"

/-- How a command ends. `shown` is what it has printed by then. -/
inductive Outcome where
  /-- The environment cannot be set up. -/
  | aborted
  | usage
  | help
  | version
  | finished (shown : String) (error : Option CommandError) (warnings : List Warning)
deriving DecidableEq, Repr

def abortedCode : Nat := 101

def load (terminal : Terminal) : Option String → Except CommandError Configuration
  | none => .ok .vacant
  | some path =>
    match terminal.read path with
    | .error error => .error (.io ("cannot read " ++ path ++ ": " ++ error.message))
    | .ok text =>
      match Configuration.ofString text with
      | .error fault => .error (.ofFault fault)
      | .ok configuration => .ok configuration

def showProperties (format : Format) (p : PropertySet) : String :=
  match format with
  | .properties => p.text
  | .json => p.jsonText

def showGates (r : Rehearsal) : String :=
  r.gates.text securityIntegration (realmNames r.startup.realms)

/-- Runs, shows the report, and shuts down. The shutdown is done whatever comes before it, and
the first error wins. -/
def showRun (json : Bool) (r : Rehearsal) : Outcome :=
  match r.run with
  | (.error failure, r) => .finished "" (some (.ofFailure failure)) r.shutdown.2.stage.warnings
  | (.ok report, r) =>
    let enforced := r.stage.enforced
    let shown := if json then report.jsonText enforced else report.text enforced
    match r.shutdown with
    | (.ok (), r) => .finished shown none r.stage.warnings
    | (.error failure, r) => .finished shown (some (.ofFailure failure)) r.stage.warnings

def perform (command : Command) (r : Rehearsal) : Outcome :=
  match command with
  | .properties format =>
    .finished (showProperties format r.startup.properties) none r.stage.warnings
  | .gates => .finished (showGates r) none r.stage.warnings
  | .bootstrap json => showRun json r

def runCommand (terminal : Terminal) (command : Command) (path : Option String) : Outcome :=
  match load terminal path with
  | .error error => .finished "" (some error) []
  | .ok configuration =>
    match Rehearsal.compose configuration none terminal.environment.get? terminal.programs with
    | .error error => .finished "" (some (.ofConfigurationError error)) []
    | .ok rehearsal => perform command rehearsal

def run (terminal : Terminal) (arguments : List String) : Outcome :=
  match parse (terminal.environment.get? configVariable) arguments with
  | .usage => .usage
  | .help => .help
  | .version => .version
  | .perform command path => runCommand terminal command path

/-- Loads the file of variables into the environment before anything else. -/
def start (terminal : Terminal) (variableFile : List UInt8) (arguments : List String) : Outcome :=
  match VariableFile.loadBytes terminal.environment variableFile with
  | none => .aborted
  | some environment => run { terminal with environment := environment } arguments

end GatedStartup.CommandLine
