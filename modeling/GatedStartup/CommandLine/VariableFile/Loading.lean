import GatedStartup.CommandLine.VariableFile.Lines
import GatedStartup.CommandLine.VariableFile.Quoted

/-! Loading a file of variables into the environment, a line `NAME=value` after the other. Blank
lines and comments are passed over, and `export` may stand before a name. What the environment
has stays, so of two lines for a name the first counts. A line of another form ends the
loading. -/
namespace GatedStartup.CommandLine.VariableFile

def isNameStart (c : Char) : Bool := c.isAlpha || c = '_'

def isNameChar (c : Char) : Bool := c.isAlphanum || c = '_' || c = '.'

/-- A name, and what follows it and the white space after it. -/
def name? (cs : List Char) : Option (String × List Char) :=
  if cs.head?.any isNameStart then
    some (String.ofList (cs.takeWhile isNameChar),
      (cs.dropWhile isNameChar).dropWhile Text.isBlankChar)
  else none

/-- A name without `export` before it, and what follows its equals sign. A variable may itself be
named `export`. -/
def target? (cs : List Char) : Option (String × List Char) :=
  match name? cs with
  | none => none
  | some (name, '=' :: rest) => some (name, rest.dropWhile Text.isBlankChar)
  | some (name, rest) =>
    if name = "export" then
      match name? rest with
      | some (name, '=' :: rest) => some (name, rest.dropWhile Text.isBlankChar)
      | _ => none
    else none

inductive Line where
  | nothing
  | assignment (name value : String)
  | malformed
deriving DecidableEq, Repr

def Line.of (environment : Environment) (cs : List Char) : Line :=
  let cs := Text.trimChars cs
  if cs.isEmpty || cs.head? = some '#' then .nothing
  else
    match target? cs with
    | none => .malformed
    | some (name, rest) =>
      if rest.isEmpty || rest.head? = some '#' then .assignment name ""
      else
        match value? environment rest with
        | some value => .assignment name value
        | none => .malformed

/-- Nothing when a value that is to be set holds a NUL character, which no variable can. -/
def load (environment : Environment) : List (Option (List Char)) → Option Environment
  | [] => some environment
  | none :: _ => some environment
  | some line :: rest =>
    match Line.of environment line with
    | .nothing => load environment rest
    | .malformed => some environment
    | .assignment name value =>
      if (environment.get? name).isSome then load environment rest
      else if value.toList.contains (Char.ofNat 0) then none
      else load (environment.add name value) rest

/-- The environment with the variables of the file. -/
def loadBytes (environment : Environment) (bytes : List UInt8) : Option Environment :=
  load environment (lines bytes)

/-- The words of a text, made of the characters given. -/
def words (isPart : Char → Bool) (cs : List Char) : List String :=
  (Text.split ' ' (String.ofList (cs.map fun c => if isPart c then c else ' '))).filter (· != "")

/-- Names the file may set or refer to, and perhaps other words of it. -/
def mentioned (bytes : List UInt8) : List String :=
  let cs := (readable (cutLines (withoutMark bytes))).flatten
  (words isNameChar cs ++ words Text.isAlphanumeric cs).eraseDups

end GatedStartup.CommandLine.VariableFile
