/-! Arguments of the command. Options of the program may stand before or after the name of a
subcommand; each level takes an option once. The value of an option that stands in an argument
of its own is checked at the next option or at the end of its level. The deepest value wins over
shallower ones, and any of them over the environment, which is consulted at every level that has
no value of its own. -/
namespace GatedStartup.CommandLine

inductive Format where
  | properties | json
deriving DecidableEq, Repr

/-- Where an argument stands. -/
inductive Level where
  | program | properties | gates | bootstrap
deriving DecidableEq, Repr

inductive Command where
  | properties (format : Format)
  | gates
  | bootstrap (json : Bool)
deriving DecidableEq, Repr

/-- What the arguments ask for. -/
inductive Invocation where
  | usage
  | help
  | version
  | perform (command : Command) (config : Option String)
deriving DecidableEq, Repr

/-- Options with a value. -/
inductive Valued where
  | config | format
deriving DecidableEq, Repr

inductive Flag where
  | verbose | json | help | version
deriving DecidableEq, Repr

/-- An argument by its form. -/
inductive Form where
  | separator
  | long (name : String) (value : Option String)
  | short (letters : List Char)
  | plain
deriving DecidableEq, Repr

/-- Cuts at the first `=`. -/
def cutValue (cs : List Char) : String × Option String :=
  match cs.dropWhile (· != '=') with
  | [] => (String.ofList cs, none)
  | _ :: value => (String.ofList (cs.takeWhile (· != '=')), some (String.ofList value))

def Form.of (argument : String) : Form :=
  match argument.toList with
  | ['-', '-'] => .separator
  | '-' :: '-' :: rest =>
    let parts := cutValue rest
    .long parts.1 parts.2
  | '-' :: c :: rest => .short (c :: rest)
  | _ => .plain

/-- Options given so far at one level. `waiting` has no value yet, `held` one not yet checked. -/
structure Given where
  config : Option String
  format : Option Format
  verbose : Bool
  json : Bool
  waiting : Option Valued
  held : Option (Valued × String)
deriving DecidableEq, Repr

def Given.nothing : Given := ⟨none, none, false, false, none, none⟩

/-- Ends the reading of a level early. -/
inductive Stop where
  | usage | help | version
deriving DecidableEq, Repr

def Stop.invocation : Stop → Invocation
  | .usage => .usage
  | .help => .help
  | .version => .version

namespace Level

def takes (level : Level) : Valued → Bool
  | .config => true
  | .format => level = .properties

def allows (level : Level) : Flag → Bool
  | .verbose => true
  | .help => true
  | .json => level = .bootstrap
  | .version => level = .program

def valued? (level : Level) (name : String) : Option Valued :=
  let found : Option Valued :=
    if name = "config" then some .config else if name = "format" then some .format else none
  found.filter level.takes

def flag? (level : Level) (name : String) : Option Flag :=
  let found : Option Flag :=
    if name = "verbose" then some .verbose
    else if name = "json" then some .json
    else if name = "help" then some .help
    else if name = "version" then some .version
    else none
  found.filter level.allows

def letterFlag? (level : Level) (c : Char) : Option Flag :=
  let found : Option Flag :=
    if c = 'v' then some .verbose
    else if c = 'h' then some .help
    else if c = 'V' then some .version
    else none
  found.filter level.allows

end Level

def Format.ofName? (name : String) : Option Format :=
  if name = "properties" then some .properties else if name = "json" then some .json else none

namespace Given

/-- A value is taken once, and must be one the option admits. -/
def assign (g : Given) (option : Valued) (value : String) : Except Stop Given :=
  match option with
  | .config =>
    if g.config.isSome || value.isEmpty then .error .usage
    else .ok { g with config := some value }
  | .format =>
    match g.format, Format.ofName? value with
    | none, some format => .ok { g with format := some format }
    | _, _ => .error .usage

/-- Checks what is still unchecked. An option without its value is an error. -/
def settle (g : Given) : Except Stop Given :=
  if g.waiting.isSome then .error .usage
  else
    match g.held with
    | none => .ok g
    | some (option, value) => { g with held := none }.assign option value

def raise (g : Given) (flag : Flag) : Except Stop Given := do
  let g ← g.settle
  match flag with
  | .help => throw .help
  | .version => throw .version
  | .verbose => if g.verbose then throw .usage else return { g with verbose := true }
  | .json => if g.json then throw .usage else return { g with json := true }

def attach (g : Given) (option : Valued) (value : String) : Except Stop Given := do
  let g ← g.settle
  g.assign option value

def await (g : Given) (option : Valued) : Except Stop Given := do
  let g ← g.settle
  return { g with waiting := some option }

def takeLong (level : Level) (g : Given) (name : String) (value : Option String) :
    Except Stop Given :=
  match level.valued? name, level.flag? name, value with
  | some option, _, some value => g.attach option value
  | some option, _, none => g.await option
  | none, some flag, none => g.raise flag
  | none, _, _ => .error .usage

/-- Letters are flags up to the first option, which takes the rest of them as its value. -/
def takeShort (level : Level) (g : Given) : List Char → Except Stop Given
  | [] => .ok g
  | c :: rest =>
    if c = 'c' then
      match rest with
      | [] => g.await .config
      | '=' :: value => g.attach .config (String.ofList value)
      | value => g.attach .config (String.ofList value)
    else
      match level.letterFlag? c with
      | none => .error .usage
      | some flag => do
        let g ← g.raise flag
        takeShort level g rest

/-- The value from the environment, unless the level has one. -/
def consult (g : Given) (ambient : Option String) : Except Stop (Option String) :=
  match g.config, ambient with
  | some config, _ => .ok (some config)
  | none, none => .ok none
  | none, some value => if value.isEmpty then .error .usage else .ok (some value)

end Given

/-- The end of a level: everything must be in order. -/
def close (g : Given) (ambient : Option String) : Except Stop (Given × Option String) := do
  let g ← g.settle
  let config ← g.consult ambient
  return (g, config)

/-- The arguments of a subcommand, which takes options only. -/
def readOptions (level : Level) (ambient : Option String) (g : Given) :
    List String → Except Stop (Given × Option String)
  | [] => close g ambient
  | argument :: rest =>
    match g.waiting, Form.of argument with
    | some option, .plain =>
      readOptions level ambient { g with waiting := none, held := some (option, argument) } rest
    | some _, _ => .error .usage
    | none, .separator => if rest.isEmpty then close g ambient else .error .usage
    | none, .long name value => do
      let g ← g.takeLong level name value
      readOptions level ambient g rest
    | none, .short letters => do
      let g ← g.takeShort level letters
      readOptions level ambient g rest
    | none, .plain => .error .usage

def subcommand? (name : String) : Option Level :=
  if name = "properties" then some .properties
  else if name = "gates" then some .gates
  else if name = "bootstrap" then some .bootstrap
  else none

/-- Help may be asked for one subcommand, or for itself. -/
def helpTopic (topics : List String) : Stop :=
  match topics with
  | [] => .help
  | [topic] => if topic = "help" || (subcommand? topic).isSome then .help else .usage
  | _ => .usage

def commandOf (level : Level) (g : Given) : Option Command :=
  match level with
  | .program => none
  | .properties => some (.properties (g.format.getD .properties))
  | .gates => some .gates
  | .bootstrap => some (.bootstrap g.json)

/-- Without a subcommand the help is shown. -/
def readProgram (ambient : Option String) (g : Given) : List String → Except Stop Invocation
  | [] => do
    let _ ← close g ambient
    return .help
  | argument :: rest =>
    match g.waiting, Form.of argument with
    | some option, .plain =>
      readProgram ambient { g with waiting := none, held := some (option, argument) } rest
    | some _, _ => .error .usage
    | none, .separator =>
      if rest.isEmpty then do
        let _ ← close g ambient
        return .help
      else .error .usage
    | none, .long name value => do
      let g ← g.takeLong .program name value
      readProgram ambient g rest
    | none, .short letters => do
      let g ← g.takeShort .program letters
      readProgram ambient g rest
    | none, .plain =>
      if argument = "help" then .error (helpTopic rest)
      else
        match subcommand? argument with
        | none => .error .usage
        | some level => do
          let (inner, innerConfig) ← readOptions level ambient .nothing rest
          let (outer, outerConfig) ← close g ambient
          match commandOf level inner with
          | none => throw .usage
          | some command =>
            return .perform command (inner.config.or (outer.config.or (innerConfig.or outerConfig)))

/-- `ambient` is the path of the document in the environment. -/
def parse (ambient : Option String) (arguments : List String) : Invocation :=
  match readProgram ambient .nothing arguments with
  | .ok invocation => invocation
  | .error stop => stop.invocation

end GatedStartup.CommandLine
