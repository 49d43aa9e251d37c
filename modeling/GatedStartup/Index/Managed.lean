import GatedStartup.Index.Description
import GatedStartup.Lookup.Collaborators

/-! A managed index: fetched or created on first use, then bound to its handle and to the service
that supplied it until it is destroyed there. -/
namespace GatedStartup.Index

open Lookup

structure Binding where
  handle : Handle
  service : Ref .service
deriving DecidableEq, Repr

structure Managed where
  definition : Definition
  /-- The component that declares the index. -/
  component : Option String
  binding : Option Binding
deriving DecidableEq, Repr

namespace Managed

def unbound (d : Definition) (component : Option String) : Managed := ⟨d, component, none⟩

def indexName (x : Managed) : Except ConfigurationError String :=
  match x.definition.indexName? x.component with
  | some name => .ok name
  | none => .error (.missingField "index_name")

/-- Empty when there is no name. -/
def displayName (x : Managed) : String := (x.definition.indexName? x.component).getD ""

def bound (x : Managed) : Option Handle := x.binding.map (·.handle)

/-- An index that is there is fetched; any other is created and then fetched. -/
def fetchOrCreate (service : Ref .service) (name path : String) (fields : Fields) :
    Work (Except SearchError Handle) := do
  match ← ask (.findIndex service name path) with
  | some handle => pure (.ok handle)
  | none =>
    match ← ask (.createIndex service name path fields) with
    | .error error => pure (.error error)
    | .ok () =>
      match ← ask (.findIndex service name path) with
      | some handle => pure (.ok handle)
      | none => pure (.error (.notVisible name path))

/-- What an unbound index is to be bound to. Its name and region path are settled before a
service is looked for. -/
def acquire (k : Collaborators) (x : Managed) : Work (Except Failure Binding) :=
  match x.indexName with
  | .error error => pure (.error (.configuration error))
  | .ok name => do
    match ← k.resolveRegionPath x.definition with
    | .error error => pure (.error (.configuration error))
    | .ok path =>
      match ← k.resolveService with
      | none => pure (.error (.configuration (.unresolved "search service")))
      | some service =>
        match ← fetchOrCreate service.value name path.value x.definition.coverage with
        | .error error => pure (.error (.search error))
        | .ok handle => pure (.ok ⟨handle, service.value⟩)

/-- A bound index answers its handle and asks nothing. A failure binds nothing. -/
def ensure (k : Collaborators) (x : Managed) : Work (Except Failure Handle × Managed) :=
  match x.binding with
  | some binding => pure (.ok binding.handle, x)
  | none => do
    match ← acquire k x with
    | .error error => pure (.error error, x)
    | .ok binding => pure (.ok binding.handle, { x with binding := some binding })

/-- Destroys what is bound, if the definition asks for it. A refusal keeps the binding. -/
def destroy (x : Managed) : Work (Except Failure Unit × Managed) :=
  if x.definition.destroyOnShutdown then
    match x.binding with
    | none => pure (.ok (), x)
    | some binding => do
      match ← ask (.destroyIndex binding.service binding.handle) with
      | .error error => pure (.error (.search error), x)
      | .ok () => pure (.ok (), { x with binding := none })
  else pure (.ok (), x)

def describe (describeRegion : Region → String) (x : Managed) : String :=
  Text.record "IndexFactory"
    [("spec", x.definition.describe describeRegion),
      ("component_name", Text.optional (x.component.map Text.quoted))] true

end Managed
end GatedStartup.Index
