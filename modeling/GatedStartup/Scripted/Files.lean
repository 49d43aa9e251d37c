import GatedStartup.CommandLine.Run

/-! A working directory of files held in memory. Paths are walked segment by segment: what stands
before a slash must be there and be a directory. Of what lies outside the working directory only
the directories above it and the usual ones at the root are known. -/
namespace GatedStartup.Scripted

open CommandLine

structure File where
  content : List UInt8
  /-- The file can be run as a program. -/
  executable : Bool
deriving DecidableEq, Repr

structure Files where
  /-- Each file by its path from the working directory. Of two files with one path the later
  counts. -/
  entries : List (String × File)

namespace Files

/-- Where a walk has come to. A directory is given by its segments from the root. -/
inductive Place where
  | directory (segments : List String)
  | file (file : File)
deriving DecidableEq, Repr

def workingDirectory : List String := ["tmp", "working-directory"]

/-- The directory of programs is there even when nothing is in it. -/
def programs : List String := workingDirectory ++ ["bin"]

def rootDirectories : List String :=
  ["bin", "boot", "dev", "etc", "home", "lib", "mnt", "opt", "proc", "root", "run", "sbin", "sys",
    "tmp", "usr", "var"]

/-- The directories that are there whatever the files are. -/
def standing : List (List String) :=
  [[], workingDirectory, programs] ++ rootDirectories.map ([·])

/-- The segments of the path of a file, from the root. -/
def segments (path : String) : List String :=
  ((Text.split '/' path).filter fun s => s != "" && s != ".").foldl
    (fun path s => if s == ".." then path.dropLast else path ++ [s]) workingDirectory

def known (files : Files) : List (List String × File) :=
  files.entries.reverse.map fun entry => (segments entry.1, entry.2)

/-- The null device is an empty file. -/
def file? (files : Files) (path : List String) : Option File :=
  if path == ["dev", "null"] then some ⟨[], false⟩ else files.known.lookup path

def isDirectory (files : Files) (path : List String) : Bool :=
  standing.contains path || files.known.any fun file => path.isPrefixOf file.1

/-- The longest name of a file, and the longest path with the NUL at its end, in bytes. -/
def longestName : Nat := 255
def longestPath : Nat := 4096

def enter (files : Files) (place : Place) (name : String) : Except ReadError Place :=
  match place with
  | .file _ => .error .notDirectory
  | .directory path =>
    if name == "." then .ok place
    else if name == ".." then .ok (.directory path.dropLast)
    else if name.utf8ByteSize > longestName then .error .tooLong
    else
      let path := path ++ [name]
      match files.file? path with
      | some file => .ok (.file file)
      | none => if files.isDirectory path then .ok (.directory path) else .error .missing

/-- Where a path leads. A path with a slash at its end leads to a directory. -/
def walk (files : Files) (path : String) : Except ReadError Place :=
  if path.utf8ByteSize ≥ longestPath then .error .tooLong
  else do
    let start := if path.toList.head? = some '/' then [] else workingDirectory
    let place ← ((Text.split '/' path).filter (· != "")).foldlM files.enter (.directory start)
    if path.toList.getLast? = some '/' then files.enter place "." else return place

def read (files : Files) (path : String) : Except ReadError String :=
  match files.walk path with
  | .error error => .error error
  | .ok (.file file) =>
    match String.fromUTF8? ⟨file.content.toArray⟩ with
    | some text => .ok text
    | none => .error .notText
  | .ok (.directory _) => .error .directory

def hasProgram (files : Files) (name : String) : Bool :=
  (files.file? (programs ++ [name])).any (·.executable)

/-- The search path leads to the directory of programs, whatever the environment holds. -/
def searchPath : String × String := ("PATH", "/" ++ "/".intercalate programs)

/-- The command, started in the working directory. Its file of variables is `.env`. -/
def run (files : Files) (environment : List (String × String)) (arguments : List String) :
    Outcome :=
  CommandLine.start ⟨⟨searchPath :: environment⟩, files.hasProgram, files.read⟩
    (((files.file? (workingDirectory ++ [".env"])).map (·.content)).getD []) arguments

end Files
end GatedStartup.Scripted
