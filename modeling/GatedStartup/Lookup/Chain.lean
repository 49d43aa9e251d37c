import GatedStartup.Failure
import GatedStartup.Program
import GatedStartup.Text.Quoted

/-! Ordered fallbacks. Strategies are tried one after another; the first that finds something
wins and the later ones are not tried. A strategy that fails counts as one that finds nothing. -/
namespace GatedStartup.Lookup

/-- Where a value came from. -/
inductive Source where
  | explicit | registry | cacheAccessor | cacheLookup | regionFullPath | configuredPath
deriving DecidableEq, Repr

def Source.label : Source → String
  | .explicit => "explicit"
  | .registry => "registry"
  | .cacheAccessor => "cache-accessor"
  | .cacheLookup => "cache-lookup"
  | .regionFullPath => "region-full-path"
  | .configuredPath => "configured-path"

def Source.title : Source → String
  | .explicit => "Explicit"
  | .registry => "Registry"
  | .cacheAccessor => "CacheAccessor"
  | .cacheLookup => "CacheLookup"
  | .regionFullPath => "RegionFullPath"
  | .configuredPath => "ConfiguredPath"

def Source.all : List Source :=
  [.explicit, .registry, .cacheAccessor, .cacheLookup, .regionFullPath, .configuredPath]

def Source.ofLabel? (label : String) : Option Source := all.find? fun s => s.label == label

structure Resolved (α : Type) where
  value : α
  source : Source
deriving DecidableEq, Repr

/-- A strategy failed; the chain goes on. -/
structure Miss where
  source : Source
  reason : String
deriving DecidableEq, Repr

def Miss.message (m : Miss) : String := m.source.label ++ " lookup failed: " ++ m.reason

variable {Q : Type} {Answer : Q → Type} {α : Type}

structure Strategy (Answer : Q → Type) (α : Type) where
  source : Source
  attempt : Program Answer (Except Miss (Option α))

/-- Finds `value` whenever there is one. -/
def Strategy.value (source : Source) (value : Option α) : Strategy Answer α :=
  ⟨source, pure (.ok value)⟩

def Strategy.finding (source : Source) (find : Program Answer (Option α)) : Strategy Answer α :=
  ⟨source, find >>= fun found => pure (.ok found)⟩

/-- Strategies in the order they are tried. -/
abbrev Chain (Answer : Q → Type) (α : Type) := List (Strategy Answer α)

namespace Chain

def resolve : Chain Answer α → Program Answer (Option (Resolved α))
  | [] => pure none
  | strategy :: rest => do
    match ← strategy.attempt with
    | .ok (some value) => pure (some ⟨value, strategy.source⟩)
    | .ok none => resolve rest
    | .error _ => resolve rest

/-- Finding nothing at all is `exhausted`. -/
def resolveOr (exhausted : ConfigurationError) (chain : Chain Answer α) :
    Program Answer (Except ConfigurationError (Resolved α)) := do
  match ← resolve chain with
  | some resolved => pure (.ok resolved)
  | none => pure (.error exhausted)

/-- The chain for `what`, by the sources it tries. -/
def describe (what : String) (chain : Chain Answer α) : String :=
  Text.record "ResolutionChain"
    [("what", Text.quoted what),
      ("strategies", Text.bracketed (chain.map (·.source.title)))] false

end Chain
end GatedStartup.Lookup
