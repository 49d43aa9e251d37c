import GatedStartup.Index.Managed

/-! The managed indexes of a process, one for each resolved name, in order of first
registration. The first definition of a name stays. -/
namespace GatedStartup.Index

open Lookup

structure Catalogue where
  entries : List (String × Managed)
deriving DecidableEq, Repr

namespace Catalogue

def empty : Catalogue := ⟨[]⟩

def names (c : Catalogue) : List String := c.entries.map (·.1)

def get? (c : Catalogue) (name : String) : Option Managed := c.entries.lookup name

/-- The index registered under the name of the definition, which is a new one when the name is.
A known name with another definition is warned of. -/
def register (c : Catalogue) (component : String) (d : Definition) :
    Work (Except ConfigurationError (String × Managed) × Catalogue) :=
  let fresh := Managed.unbound d (some component)
  match fresh.indexName with
  | .error error => pure (.error error, c)
  | .ok name =>
    match c.get? name with
    | none => pure (.ok (name, fresh), ⟨c.entries ++ [(name, fresh)]⟩)
    | some known =>
      if known.definition.agrees d then pure (.ok (name, known), c)
      else do
        ask (.warn (.redefinition name component))
        pure (.ok (name, known), c)

def ensureEntries (k : Collaborators) :
    List (String × Managed) → Work (Except Failure (List Handle) × List (String × Managed))
  | [] => pure (.ok [], [])
  | (name, x) :: rest => do
    match ← x.ensure k with
    | (.error error, x) => pure (.error error, (name, x) :: rest)
    | (.ok handle, x) =>
      let (handles, rest) ← ensureEntries k rest
      pure (handles.map (handle :: ·), (name, x) :: rest)

/-- Ensures every index in order. The first failure ends it; what is ensured by then stays. -/
def ensureAll (k : Collaborators) (c : Catalogue) :
    Work (Except Failure (List Handle) × Catalogue) := do
  let (handles, entries) ← ensureEntries k c.entries
  pure (handles, ⟨entries⟩)

/-- Last first, past failures. The first failure met is returned. -/
def destroyEntries : List (String × Managed) → Work (Option Failure × List (String × Managed))
  | [] => pure (none, [])
  | (name, x) :: rest => do
    let (earlier, rest) ← destroyEntries rest
    match ← x.destroy with
    | (.ok (), x) => pure (earlier, (name, x) :: rest)
    | (.error error, x) =>
      ask (.warn (.destroyFailed x.displayName error))
      pure (earlier.or (some error), (name, x) :: rest)

def destroyAll (c : Catalogue) : Work (Except Failure Unit × Catalogue) := do
  let (failed, entries) ← destroyEntries c.entries
  match failed with
  | none => pure (.ok (), ⟨entries⟩)
  | some error => pure (.error error, ⟨entries⟩)

end Catalogue
end GatedStartup.Index
