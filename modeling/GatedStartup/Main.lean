import GatedStartup.CommandLine.Run

/-! The command itself: it gathers what it needs from the process, and prints what comes of it. -/
namespace GatedStartup.CommandLine

def helpText : String :=
  "Capability-gated cache bootstrap: security activation and managed indexes\n\n" ++
  "Usage: cachegate [OPTIONS] [COMMAND]\n\n" ++
  "Commands:\n" ++
  "  properties  Print the engine properties the configuration produces\n" ++
  "  gates       Show which optional subsystems would activate\n" ++
  "  bootstrap   Run the full bootstrap against the in-memory engine, then shut down\n" ++
  "  help        Print this message or the help of the given subcommand(s)\n\n" ++
  "Options:\n" ++
  "  -c, --config <CONFIG>  Bootstrap configuration document (JSON) [env: CACHEGATE_CONFIG=]\n" ++
  "  -v, --verbose          Enable verbose/debug output\n" ++
  "  -h, --help             Print help\n" ++
  "  -V, --version          Print version\n"

def usageText : String :=
  "error: invalid arguments\n\nUsage: cachegate [OPTIONS] [COMMAND]\n\n" ++
  "For more information, try '--help'.\n"

def readError : IO.Error → ReadError
  | .noFileOrDirectory .. => .missing
  | .inappropriateType _ code _ => if code = 21 then .directory else .notDirectory
  | .invalidArgument (some _) .. => .tooLong
  | .permissionDenied .. => .other "Permission denied (os error 13)"
  | error => .other (toString error)

def readBytes (path : String) : IO (Except ReadError ByteArray) := do
  try return .ok (← IO.FS.readBinFile path)
  catch error => return .error (readError error)

def readText (path : String) : IO (Except ReadError String) := do
  match ← readBytes path with
  | .error error => return .error error
  | .ok bytes =>
    match String.fromUTF8? bytes with
    | some text => return .ok text
    | none => return .error .notText

/-- Whether a directory of the search path holds the program. -/
def onSearchPath (name : String) : IO Bool := do
  let path ← IO.getEnv "PATH"
  for directory in Text.split ':' (path.getD "") do
    match ← readBytes (directory ++ "/" ++ name) with
    | .ok _ => return true
    | .error _ => pure ()
  return false

def relevantVariables : List String :=
  [configVariable, integrationsVariable, "CACHEGATE_SECURITY_INTEGRATION"]

def logText (w : Warning) : String :=
  "WARN " ++ w.message ++ String.join (w.fields.map fun field => " " ++ field.1 ++ "=" ++ field.2)

def report : Outcome → IO UInt32
  | .aborted => do
    IO.eprintln "cannot set a variable to a value that holds a NUL character"
    return abortedCode.toUInt32
  | .usage => do
    IO.eprint usageText
    return 2
  | .help => do
    IO.print helpText
    return 0
  | .version => do
    IO.print versionText
    return 0
  | .finished shown error warnings => do
    IO.print shown
    for warning in warnings do
      IO.eprintln (logText warning)
    match error with
    | none => return 0
    | some error =>
      IO.eprintln ("Error: " ++ error.message)
      return error.exitCode.toUInt32

end GatedStartup.CommandLine

open GatedStartup GatedStartup.CommandLine in
def main (arguments : List String) : IO UInt32 := do
  let variableFile := ((← readBytes ".env").toOption.getD .empty).toList
  let names := (relevantVariables ++ VariableFile.mentioned variableFile).eraseDups
  let found ← names.filterMapM fun name => return (← IO.getEnv name).map (name, ·)
  let installed ← onSearchPath "cachegate-security"
  let terminal : Terminal :=
    ⟨⟨found⟩, fun name => name == "cachegate-security" && installed,
      fun _ => .error .missing⟩
  let environment := (VariableFile.loadBytes terminal.environment variableFile).getD .empty
  let document ← match parse (environment.get? configVariable) arguments with
    | .perform _ (some path) => readText path
    | _ => pure (.error .missing)
  report (start { terminal with read := fun _ => document } variableFile arguments)
