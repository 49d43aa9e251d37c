import GatedStartup.Lookup.Chain
import GatedStartup.Request

/-! What a managed index works with: a cache, a search service, and the region it covers. Each
is found by a chain.

* cache: injected, then by type from the component registry;
* search service: injected, from the registry, then from the cache;
* region: the reference of the definition, then the cache at the configured path;
* region path: the full path of the region, then the configured path as it is.

An injected object stays; everything else is looked up anew each time. -/
namespace GatedStartup.Lookup

structure Collaborators where
  cache : Option (Ref .cache)
  service : Option (Ref .service)
  registry : Option (Ref .registry)
deriving DecidableEq, Repr

namespace Collaborators

/-- Injects a cache unless there is one; says whether it did. -/
def setCache (k : Collaborators) (cache : Ref .cache) : Bool × Collaborators :=
  if k.cache.isSome then (false, k) else (true, { k with cache := some cache })

def setService (k : Collaborators) (service : Ref .service) : Bool × Collaborators :=
  if k.service.isSome then (false, k) else (true, { k with service := some service })

def fromRegistry (k : Collaborators)
    (component : Ref .registry → Work (Except LookupError (Option α))) :
    Strategy Request.Reply α where
  source := .registry
  attempt :=
    match k.registry with
    | none => pure (.ok none)
    | some registry => do
      match ← component registry with
      | .ok found => pure (.ok found)
      | .error error => pure (.error ⟨.registry, error.message⟩)

def cacheChain (k : Collaborators) : Chain Request.Reply (Ref .cache) :=
  [.value .explicit k.cache, k.fromRegistry fun registry => ask (.cacheComponent registry)]

def resolveCache (k : Collaborators) : Work (Option (Resolved (Ref .cache))) :=
  k.cacheChain.resolve

def serviceOfCache (k : Collaborators) : Work (Option (Ref .service)) := do
  match ← k.resolveCache with
  | none => pure none
  | some cache => ask (.serviceOf cache.value)

def serviceChain (k : Collaborators) : Chain Request.Reply (Ref .service) :=
  [.value .explicit k.service,
    k.fromRegistry fun registry => ask (.serviceComponent registry),
    .finding .cacheAccessor k.serviceOfCache]

def resolveService (k : Collaborators) : Work (Option (Resolved (Ref .service))) :=
  k.serviceChain.resolve

/-- A definition without a path has no region to look for. -/
def regionAtPath (k : Collaborators) (d : Index.Definition) : Work (Option Index.Region) :=
  match d.configuredPath? with
  | none => pure none
  | some path => do
    match ← k.resolveCache with
    | none => pure none
    | some cache => ask (.regionAt cache.value path)

def regionChain (k : Collaborators) (d : Index.Definition) :
    Chain Request.Reply Index.Region :=
  [.value .explicit d.region, .finding .cacheLookup (k.regionAtPath d)]

def resolveRegion (k : Collaborators) (d : Index.Definition) :
    Work (Option (Resolved Index.Region)) :=
  (k.regionChain d).resolve

def fullPath (k : Collaborators) (d : Index.Definition) : Work (Option String) := do
  match ← k.resolveRegion d with
  | none => pure none
  | some region => pure (some region.value.fullPath)

def regionPathChain (k : Collaborators) (d : Index.Definition) : Chain Request.Reply String :=
  [.finding .regionFullPath (k.fullPath d), .value .configuredPath d.configuredPath?]

def resolveRegionPath (k : Collaborators) (d : Index.Definition) :
    Work (Except ConfigurationError (Resolved String)) :=
  (k.regionPathChain d).resolveOr .missingRegion

def describe (k : Collaborators) : String :=
  Text.record "Collaborators"
    [("explicit_cache", Text.boolean k.cache.isSome),
      ("explicit_search_service", Text.boolean k.service.isSome),
      ("registry", Text.boolean k.registry.isSome)] false

end Collaborators
end GatedStartup.Lookup
