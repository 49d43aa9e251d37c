import GatedStartup.Json.Document
import GatedStartup.Json.Number
import GatedStartup.Text.Quoted

/-! Typed reading of JSON values. Parts are read in the order of the text and the first fault is
the one reported. A part that nobody asks for is skipped, whatever it holds. -/
namespace GatedStartup.Json

/-- What stands where something else was expected. -/
inductive Found where
  | null
  | boolean (b : Bool)
  | number (n : Number)
  | string (s : String)
  | sequence
  | map
deriving DecidableEq, Repr

inductive Expected where
  | string | boolean | sequence | map
  | record (title : String)
deriving DecidableEq, Repr

inductive Fault where
  /-- The text is no JSON value, or a part that is read cannot be represented. -/
  | malformed
  | invalidType (found : Found) (expected : Expected)
  | missingMember (name : String)
  | duplicateMember (name : String)
  /-- A record written as an array of `length` items lacks a required one. -/
  | shortArray (length : Nat) (title : String) (members : Nat)
  /-- A record written as an array has more items than members. -/
  | longArray (length : Nat)
deriving DecidableEq, Repr

def Found.text : Found → String
  | .null => "null"
  | .boolean b => "boolean `" ++ Text.boolean b ++ "`"
  | .number (.integer value) => "integer `" ++ (Number.integer value).text ++ "`"
  | .number (.real bits) => "floating point `" ++ (Number.real bits).text ++ "`"
  | .string s => "string " ++ Text.quoted s
  | .sequence => "sequence"
  | .map => "map"

def Expected.text : Expected → String
  | .string => "a string"
  | .boolean => "a boolean"
  | .sequence => "a sequence"
  | .map => "a map"
  | .record title => "struct " ++ title

/-- The place of a malformed part is not told. -/
def Fault.message : Fault → String
  | .malformed => "<syntax>"
  | .invalidType found expected =>
    "invalid type: " ++ found.text ++ ", expected " ++ expected.text
  | .missingMember name => "missing field `" ++ name ++ "`"
  | .duplicateMember name => "duplicate field `" ++ name ++ "`"
  | .shortArray length title members =>
    "invalid length " ++ toString length ++ ", expected struct " ++ title ++ " with " ++
      toString members ++ " elements"
  | .longArray length =>
    "invalid length " ++ toString length ++ ", expected fewer elements in array"

abbrev Reader (α : Type) := Value → Except Fault α

/-- The fault of a value that is not what was expected. A container is not looked into. -/
def mismatch (expected : Expected) : Value → Fault
  | .null => .invalidType .null expected
  | .boolean b => .invalidType (.boolean b) expected
  | .number n =>
    match n.read? with
    | some value => .invalidType (.number value) expected
    | none => .malformed
  | .string (some s) => .invalidType (.string s) expected
  | .string none => .malformed
  | .array _ _ => .invalidType .sequence expected
  | .object _ _ => .invalidType .map expected
  | .broken => .malformed

def readString : Reader String
  | .string (some s) => .ok s
  | v => .error (mismatch .string v)

def readBoolean : Reader Bool
  | .boolean b => .ok b
  | v => .error (mismatch .boolean v)

/-- `null` reads as nothing. -/
def readOptional (read : Reader α) : Reader (Option α)
  | .null => .ok none
  | v => (read v).map some

def readItems (read : Reader α) : List Value → Except Fault (List α)
  | [] => .ok []
  | v :: rest => do
    let item ← read v
    let items ← readItems read rest
    return item :: items

def readList (read : Reader α) : Reader (List α)
  | .array items closed => do
    let read ← readItems read items
    if closed then return read else throw .malformed
  | v => .error (mismatch .sequence v)

def readPairs (read : Reader α) : List (Literal × Value) → Except Fault (List (String × α))
  | [] => .ok []
  | (none, _) :: _ => .error .malformed
  | (some key, v) :: rest => do
    let value ← read v
    let pairs ← readPairs read rest
    return (key, value) :: pairs

/-- The members of an object as pairs, repeated names included. -/
def readMap (read : Reader α) : Reader (List (String × α))
  | .object members closed => do
    let pairs ← readPairs read members
    if closed then return pairs else throw .malformed
  | v => .error (mismatch .map v)

/-- A member of a record: what reading it changes in the record. -/
structure Member (ρ : Type) where
  name : String
  required : Bool
  read : Reader (ρ → ρ)

/-- A record type: the members in their order, and the record with every member left out. -/
structure Shape (ρ : Type) where
  title : String
  members : List (Member ρ)
  vacant : ρ

namespace Shape

variable {ρ : Type}

def member? (shape : Shape ρ) (name : String) : Option (Member ρ) :=
  shape.members.find? fun m => m.name == name

/-- Reads the members of an object one after another into `record`. Unknown names are skipped;
a name in `seen` is repeated. The names read are returned with the record. -/
def readMembers (shape : Shape ρ) (seen : List String) (record : ρ) :
    List (Literal × Value) → Except Fault (List String × ρ)
  | [] => .ok (seen, record)
  | (none, _) :: _ => .error .malformed
  | (some name, v) :: rest =>
    match shape.member? name with
    | none => readMembers shape seen record rest
    | some m =>
      if seen.contains name then .error (.duplicateMember name)
      else
        match m.read v with
        | .error fault => .error fault
        | .ok change => readMembers shape (name :: seen) (change record) rest

/-- Reads the items of an array as members in order. Missing items leave the rest out. -/
def readPositions (shape : Shape ρ) (total : Nat) (closed : Bool) (record : ρ) (position : Nat) :
    List (Member ρ) → List Value → Except Fault ρ
  | [], [] => if closed then .ok record else .error .malformed
  | [], _ :: _ => .error (.longArray total)
  | m :: ms, [] =>
    if !closed then .error .malformed
    else if m.required then .error (.shortArray position shape.title shape.members.length)
    else readPositions shape total closed record (position + 1) ms []
  | m :: ms, v :: vs =>
    match m.read v with
    | .error fault => .error fault
    | .ok change => readPositions shape total closed (change record) (position + 1) ms vs

/-- The first required member that was not read. -/
def missing? (shape : Shape ρ) (seen : List String) : Option String :=
  (shape.members.find? fun m => m.required && !seen.contains m.name).map (·.name)

def readObject (shape : Shape ρ) (members : List (Literal × Value)) (closed : Bool) :
    Except Fault ρ :=
  match shape.readMembers [] shape.vacant members with
  | .error fault => .error fault
  | .ok (seen, record) =>
    if !closed then .error .malformed
    else match shape.missing? seen with
      | some name => .error (.missingMember name)
      | none => .ok record

/-- A record is written as an object, or as an array of its members in order. -/
def read (shape : Shape ρ) : Reader ρ
  | .object members closed => shape.readObject members closed
  | .array items closed =>
    shape.readPositions items.length closed shape.vacant 0 shape.members items
  | v => .error (mismatch (.record shape.title) v)

end Shape

/-- A member that takes its default when left out. -/
def Member.plain (name : String) (read : Reader α) (change : α → ρ → ρ) : Member ρ :=
  ⟨name, false, fun v => (read v).map change⟩

def Member.needed (name : String) (read : Reader α) (change : α → ρ → ρ) : Member ρ :=
  ⟨name, true, fun v => (read v).map change⟩

mutual

/-- Whether everything in the value can be represented, with at most `depth` brackets around
any part. -/
def Value.sound (depth : Nat) : Value → Bool
  | .null => true
  | .boolean _ => true
  | .number n => n.read?.isSome
  | .string text => text.isSome
  | .array items closed =>
    match depth with
    | 0 => false
    | depth + 1 => closed && soundItems depth items
  | .object members closed =>
    match depth with
    | 0 => false
    | depth + 1 => closed && soundMembers depth members
  | .broken => false

def soundItems (depth : Nat) : List Value → Bool
  | [] => true
  | v :: rest => v.sound depth && soundItems depth rest

def soundMembers (depth : Nat) : List (Literal × Value) → Bool
  | [] => true
  | (key, v) :: rest => key.isSome && v.sound depth && soundMembers depth rest

end

/-- Reads the whole of a text. Items too many and text after the value make it malformed. -/
def Document.read (read : Reader α) (document : Document) : Except Fault α :=
  match read document.root with
  | .error (.longArray _) => .error .malformed
  | .error fault => .error fault
  | .ok value => if document.complete then .ok value else .error .malformed

end GatedStartup.Json
