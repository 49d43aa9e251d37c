import GatedStartup.Index.Definition
import GatedStartup.Security.Attributes
import GatedStartup.Security.Realm

/-! The configuration document of a startup. Members left out take their defaults; only a realm
must have its name.

An index declaration is an object of the component and the members of an index definition. The
component is read where it stands. The other members are first taken in full, whatever their
names, and then read as a definition. -/
namespace GatedStartup

open Json Index

/-- An index, and the component that declares it. -/
structure Declaration where
  component : String
  definition : Definition
deriving DecidableEq, Repr

structure Configuration where
  component : String
  /-- Lists of integrations declared present, besides those the environment has. -/
  integrations : List String
  attributes : Attributes
  realms : List Accounts
  indexes : List Declaration
deriving DecidableEq, Repr

namespace Accounts

def shape : Shape Accounts where
  title := "StaticRealmConfig"
  members := [
    .needed "name" readString fun x a => { a with name := x },
    .plain "users" (readMap readString) fun x a => { a with users := .ofList x }]
  vacant := ⟨"", .empty⟩

def read : Reader Accounts := shape.read

end Accounts

namespace Declaration

/-- The members but the component, taken in full, and the component if there is one. -/
structure Gathered where
  component : Option String
  others : List (Literal × Value)

/-- Brackets that may still be opened around a part of a member: 127 in all, of which the
document, its list of declarations and the declaration are three. -/
def depthLeft : Nat := 124

def gather (component : Option String) : List (Literal × Value) → Except Fault Gathered
  | [] => .ok ⟨component, []⟩
  | (none, _) :: _ => .error .malformed
  | (some name, v) :: rest =>
    if name = "component" then
      if component.isSome then .error (.duplicateMember "component")
      else do
        let component ← readString v
        gather (some component) rest
    else if v.sound depthLeft then do
      let gathered ← gather component rest
      return { gathered with others := (some name, v) :: gathered.others }
    else .error .malformed

def read : Reader Declaration
  | .object members closed => do
    let gathered ← gather none members
    if !closed then throw .malformed
    let definition ← Definition.shape.readObject gathered.others true
    return ⟨gathered.component.getD "", definition⟩
  | v => .error (mismatch (.record "IndexDeclaration") v)

end Declaration

namespace Configuration

/-- Names the component that has no name of its own. -/
def defaultComponent : String := "cachegate"

def vacant : Configuration := ⟨defaultComponent, [], .vacant, [], []⟩

def shape : Shape Configuration where
  title := "BootstrapConfig"
  members := [
    .plain "componentName" readString fun x c => { c with component := x },
    .plain "integrations" (readList readString) fun x c => { c with integrations := x },
    .plain "security" Attributes.read fun x c => { c with attributes := x },
    .plain "realms" (readList Accounts.read) fun x c => { c with realms := x },
    .plain "indexes" (readList Declaration.read) fun x c => { c with indexes := x }]
  vacant := vacant

/-- A blank component name counts as none. -/
def named (c : Configuration) : Configuration :=
  if Text.isBlank c.component then { c with component := defaultComponent } else c

def ofDocument (document : Document) : Except Fault Configuration :=
  (document.read shape.read).map named

def ofString (text : String) : Except Fault Configuration := ofDocument (.ofString text)

end Configuration
end GatedStartup
