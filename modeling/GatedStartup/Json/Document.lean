import GatedStartup.Json.Token

/-! The document of a text: its value, and whether anything follows it. The tokens are taken one
by one with a stack of open containers; a token out of place ends the reading and leaves the
containers open. -/
namespace GatedStartup.Json

structure Document where
  root : Value
  /-- Nothing but white space follows the value. -/
  complete : Bool
deriving Repr, Inhabited

namespace Builder

/-- An open container, last part first. An object waits for the value of `key`, if any. -/
inductive Frame where
  | array (items : List Value)
  | object (members : List (Literal × Value)) (key : Option Literal)
deriving Repr, Inhabited

/-- What may come next. -/
inductive Expect where
  | value | itemOrEnd | commaOrEnd | keyOrEnd | key | colon
deriving DecidableEq, Repr

inductive State where
  | reading (expect : Expect) (stack : List Frame)
  | failed (root : Value)
  | done (root : Value) (complete : Bool)
deriving Repr, Inhabited

/-- A value goes to the innermost container, or is the document. -/
def place (v : Value) : List Frame → State
  | [] => .done v true
  | .array items :: outer => .reading .commaOrEnd (.array (v :: items) :: outer)
  | .object members (some key) :: outer =>
    .reading .commaOrEnd (.object ((key, v) :: members) none :: outer)
  | .object members none :: outer => .reading .commaOrEnd (.object members none :: outer)

/-- Everything still open breaks off around `inner`. -/
def abandon (inner : Option Value) : List Frame → Value
  | [] => inner.getD .broken
  | .array items :: outer =>
    abandon (some (.array (inner.toList ++ items).reverse false)) outer
  | .object members (some key) :: outer =>
    abandon (some (.object ((key, inner.getD .broken) :: members).reverse false)) outer
  | .object members none :: outer => abandon (some (.object members.reverse false)) outer

/-- A token out of place, or a fault. -/
def fail (stack : List Frame) : State := .failed (abandon none stack)

def Expect.takesValue (expect : Expect) : Bool := expect = .value || expect = .itemOrEnd

def scalar (v : Value) (expect : Expect) (stack : List Frame) : State :=
  if expect.takesValue then place v stack else fail stack

/-- A string is the key of a member, or a value. -/
def string (text : Literal) (expect : Expect) (stack : List Frame) : State :=
  if expect = .keyOrEnd || expect = .key then
    match stack with
    | .object members _ :: outer => .reading .colon (.object members (some text) :: outer)
    | _ => fail stack
  else scalar (.string text) expect stack

def comma (expect : Expect) (stack : List Frame) : State :=
  if expect = .commaOrEnd then
    match stack with
    | .array _ :: _ => .reading .value stack
    | .object _ _ :: _ => .reading .key stack
    | [] => fail stack
  else fail stack

def closeArray (expect : Expect) (stack : List Frame) : State :=
  match stack with
  | .array items :: outer =>
    if expect = .commaOrEnd || expect = .itemOrEnd then place (.array items.reverse true) outer
    else fail stack
  | _ => fail stack

def closeObject (expect : Expect) (stack : List Frame) : State :=
  match stack with
  | .object members none :: outer =>
    if expect = .commaOrEnd || expect = .keyOrEnd then place (.object members.reverse true) outer
    else fail stack
  | _ => fail stack

def feed (state : State) (token : Token) : State :=
  match state with
  | .failed root => .failed root
  | .done root _ => .done root false
  | .reading expect stack =>
    match token with
    | .fault => fail stack
    | .null => scalar .null expect stack
    | .boolean b => scalar (.boolean b) expect stack
    | .number n => scalar (.number n) expect stack
    | .string text => string text expect stack
    | .openArray =>
      if expect.takesValue then .reading .itemOrEnd (.array [] :: stack) else fail stack
    | .openObject =>
      if expect.takesValue then .reading .keyOrEnd (.object [] none :: stack) else fail stack
    | .colon => if expect = .colon then .reading .value stack else fail stack
    | .comma => comma expect stack
    | .closeArray => closeArray expect stack
    | .closeObject => closeObject expect stack

def finish : State → Document
  | .failed root => ⟨root, false⟩
  | .done root complete => ⟨root, complete⟩
  | .reading _ stack => ⟨abandon none stack, false⟩

end Builder

def Document.ofTokens (ts : List Token) : Document :=
  Builder.finish (ts.foldl Builder.feed (.reading .value []))

def Document.ofString (s : String) : Document := ofTokens (tokens s.toList)

end GatedStartup.Json
