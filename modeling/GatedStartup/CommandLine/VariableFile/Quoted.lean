import GatedStartup.CommandLine.Environment
import GatedStartup.Text.Alphanumeric

/-! Values in a file of variables. Strong quotes keep what they hold; weak quotes allow escapes
and names. A dollar sign names a variable by the letters and digits after it, or by what stands
between braces, and its value takes the place of the name. A blank or tab outside quotes ends
the value, and only a comment may follow. -/
namespace GatedStartup.CommandLine.VariableFile

inductive Quotes where
  | bare | strong | weak
deriving DecidableEq, Repr

/-- The name of a variable being read, last character first. -/
inductive Naming where
  | nothing
  | open (name : List Char)
  | braced (name : List Char)
deriving DecidableEq, Repr

/-- A value as read so far, last character first. -/
structure Unfinished where
  value : List Char
  quotes : Quotes
  escaped : Bool
  naming : Naming
  /-- A blank has ended the value. -/
  ended : Bool
deriving DecidableEq, Repr

namespace Unfinished

def start : Unfinished := ⟨[], .bare, false, .nothing, false⟩

def push (u : Unfinished) (c : Char) : Unfinished := { u with value := c :: u.value }

/-- A variable that is not there has no characters. -/
def pushVariable (u : Unfinished) (environment : Environment) (name : List Char) :
    Unfinished :=
  let found := (environment.get? (String.ofList name.reverse)).getD ""
  { u with value := found.toList.reverse ++ u.value, naming := .nothing }

def takeEscaped (u : Unfinished) (c : Char) : Option Unfinished :=
  let u := { u with escaped := false }
  if c = '\\' || c = '\'' || c = '"' || c = '$' || c = ' ' then some (u.push c)
  else if c = 'n' then some (u.push '\n')
  else none

/-- The character after the letters and digits of a name is taken as it is, unless it opens
braces or another name. -/
def takeInName (u : Unfinished) (environment : Environment) (name : List Char)
    (c : Char) : Unfinished :=
  if Text.isAlphanumeric c then { u with naming := .open (c :: name) }
  else if c = '\x7b' && name.isEmpty then { u with naming := .braced [] }
  else
    let u := u.pushVariable environment name
    if c = '$' then { u with naming := .open [] } else u.push c

def takeInBraces (u : Unfinished) (environment : Environment) (name : List Char)
    (c : Char) : Unfinished :=
  if c = '\x7d' then u.pushVariable environment name
  else { u with naming := .braced (c :: name) }

def takeWeak (u : Unfinished) (c : Char) : Unfinished :=
  if c = '$' then { u with naming := .open [] }
  else if c = '"' then { u with quotes := .bare }
  else if c = '\\' then { u with escaped := true }
  else u.push c

def takeBare (u : Unfinished) (c : Char) : Unfinished :=
  if c = '$' then { u with naming := .open [] }
  else if c = '\'' then { u with quotes := .strong }
  else if c = '"' then { u with quotes := .weak }
  else if c = '\\' then { u with escaped := true }
  else if c = ' ' || c = '\t' then { u with ended := true }
  else u.push c

/-- Another character, unless the value has ended. Only some characters can be escaped. -/
def take (u : Unfinished) (environment : Environment) (c : Char) :
    Option Unfinished :=
  if u.escaped then u.takeEscaped c
  else
    match u.quotes, u.naming with
    | .strong, _ => some (if c = '\'' then { u with quotes := .bare } else u.push c)
    | _, .open name => some (u.takeInName environment name c)
    | _, .braced name => some (u.takeInBraces environment name c)
    | .weak, .nothing => some (u.takeWeak c)
    | .bare, .nothing => some (u.takeBare c)

/-- Open quotes or braces leave no value. -/
def finish (u : Unfinished) (environment : Environment) : Option String :=
  match u.quotes, u.naming with
  | .bare, .nothing => some (String.ofList u.value.reverse)
  | .bare, .open name => some (String.ofList (u.pushVariable environment name).value.reverse)
  | _, _ => none

def read (environment : Environment) (u : Unfinished) : List Char → Option String
  | [] => u.finish environment
  | c :: rest =>
    if u.ended then
      if c = ' ' || c = '\t' then read environment u rest
      else if c = '#' then u.finish environment
      else none
    else
      match u.take environment c with
      | none => none
      | some u => read environment u rest

end Unfinished

/-- The value that the rest of a line spells. -/
def value? (environment : Environment) (cs : List Char) : Option String :=
  Unfinished.start.read environment cs

end GatedStartup.CommandLine.VariableFile
