import GatedStartup.Capability.Probe
import GatedStartup.Directory
import GatedStartup.Request
import GatedStartup.Scripted.SearchScript
import GatedStartup.Security.Manager

/-! A world of many objects of each kind, some held in memory and some following a script. A
reference is the place of its object. Scripted realms, probes and switches keep a journal of
what they are asked. -/
namespace GatedStartup.Scripted

open Engine Index

/-- A region that belongs to no cache, as definitions may refer to. -/
def describeRegion (r : Region) : String :=
  Text.record "Region" [("name", Text.quoted r.name), ("full_path", Text.quoted r.fullPath)] false

inductive CacheObject where
  | memory (regions : Regions) (service : Option (Ref .service))
  /-- Knows regions by the exact path only, and counts what it is asked. -/
  | exact (regions : List (String × String)) (service : Option (Ref .service))
    (regionCalls serviceCalls : Nat)

inductive ServiceObject where
  /-- With a cache, only its regions can be indexed. -/
  | memory (store : IndexStore) (cache : Option (Ref .cache))
  | scripted (script : SearchScript)

inductive ComponentType where
  | cache | service | number | text
deriving DecidableEq, Repr

inductive Component where
  | cache (cache : Ref .cache)
  | service (service : Ref .service)
  | number (value : Int)
  | text (value : String)
deriving DecidableEq, Repr

instance : Typed Component ComponentType where
  typeOf
    | .cache _ => .cache
    | .service _ => .service
    | .number _ => .number
    | .text _ => .text

/-- How a registry answers. -/
inductive Mode where
  | answering
  | closed
  /-- Every look-up meets a component of another type. -/
  | mismatched
deriving DecidableEq, Repr

structure RegistryObject where
  mode : Mode
  directory : Directory ComponentType Component
  calls : Nat

namespace RegistryObject

def lookup (r : RegistryObject) (title : ComponentType → String) (type : ComponentType) :
    Except LookupError (Option Component) × RegistryObject :=
  let counted := { r with calls := r.calls + 1 }
  match r.mode with
  | .answering => (r.directory.lookup title type, counted)
  | .closed => (.error (.unavailable "closed"), counted)
  | .mismatched => (.error (.typeMismatch (title type)), counted)

end RegistryObject

/-- What a scripted realm says to a principal it knows. -/
inductive Verdict where
  | accept | reject | unavailable
deriving DecidableEq, Repr

structure RealmScript where
  name : String
  /-- Judges only principals that start so. -/
  scope : String
  verdicts : List (String × Verdict)
  /-- Reasons to fail the next starts. -/
  refuseStart : List (Option String)
deriving DecidableEq, Repr

inductive RealmObject where
  | accounts (accounts : Accounts)
  | scripted (script : RealmScript)

def RealmObject.name : RealmObject → String
  | .accounts a => a.name
  | .scripted s => s.name

inductive ProbeObject where
  | environment (probe : EnvironmentProbe)
  | nothing
  | scripted (present : List String)

inductive SwitchObject where
  | integrated (available enabled : Bool)
  | scripted (answers : List Bool) (last : Bool)

structure World where
  caches : Array CacheObject
  services : Array ServiceObject
  registries : Array RegistryObject
  realms : Array RealmObject
  probes : Array ProbeObject
  switches : Array SwitchObject
  slots : Array (Option Manager)
  journal : List String
  warnings : List Warning

namespace World

def empty : World := ⟨#[], #[], #[], #[], #[], #[], #[], [], []⟩

def note (w : World) (event : String) : World := { w with journal := w.journal ++ [event] }

def warn (w : World) (warning : Warning) : World := { w with warnings := w.warnings ++ [warning] }

def realm? (w : World) (number : Nat) : Option Realm :=
  w.realms[number]?.map fun object => ⟨number, object.name⟩

def probe (w : World) (probe : Ref .probe) (capability : String) : Bool × World :=
  match w.probes[probe.number]? with
  | some (.environment p) => (p.isPresent capability, w)
  | some (.scripted present) => (present.contains capability, w.note ("probe " ++ capability))
  | some .nothing | none => (false, w)

def setSwitch (w : World) (switch : Ref .switch) (object : SwitchObject) : World :=
  { w with switches := w.switches.setIfInBounds switch.number object }

def enforce (w : World) (switch : Ref .switch) : Bool × World :=
  match w.switches[switch.number]? with
  | some (.integrated true _) => (true, w.setSwitch switch (.integrated true true))
  | some (.integrated false _) => (false, w.warn .noIntegratedSecurity)
  | some (.scripted answers _) =>
    let answer := answers.head?.getD true
    (answer, (w.note "enable").setSwitch switch (.scripted answers.tail answer))
  | none => (false, w)

def startRealm (w : World) (realm : Realm) : Except AuthError Unit × World :=
  match w.realms[realm.number]? with
  | some (.accounts a) => (a.start, w)
  | some (.scripted s) =>
    let w := { w with
      realms := w.realms.setIfInBounds realm.number
        (.scripted { s with refuseStart := s.refuseStart.tail }) }.note ("init " ++ s.name)
    match s.refuseStart.head?.join with
    | some reason => (.error (.unavailable s.name reason), w)
    | none => (.ok (), w)
  | none => (.ok (), w)

def stopRealm (w : World) (realm : Realm) : World :=
  match w.realms[realm.number]? with
  | some (.scripted s) => w.note ("destroy " ++ s.name)
  | _ => w

def supports (w : World) (realm : Realm) (c : Credentials) : Bool :=
  match w.realms[realm.number]? with
  | some (.scripted s) => s.scope.toList.isPrefixOf c.principal.toList
  | _ => true

def authenticate (w : World) (realm : Realm) (c : Credentials) :
    Except AuthError (Option Principal) × World :=
  match w.realms[realm.number]? with
  | some (.accounts a) => (a.authenticate c, w)
  | some (.scripted s) =>
    let w := w.note ("auth " ++ s.name ++ " " ++ c.principal)
    match s.verdicts.lookup c.principal with
    | none => (.ok none, w)
    | some .accept => (.ok (some ⟨c.principal, s.name⟩), w)
    | some .reject => (.error (.invalidCredentials c.principal), w)
    | some .unavailable => (.error (.unavailable s.name "down"), w)
  | none => (.ok none, w)

def registered (w : World) (slot : Ref .slot) : Option Manager := w.slots[slot.number]?.join

def setSlot (w : World) (slot : Ref .slot) (manager : Option Manager) : World :=
  { w with slots := w.slots.setIfInBounds slot.number manager }

def register (w : World) (slot : Ref .slot) (manager : Manager) : Bool × World :=
  if (w.registered slot).isSome then (false, w) else (true, w.setSlot slot (some manager))

def lookup (w : World) (title : ComponentType → String) (registry : Ref .registry)
    (type : ComponentType) : Except LookupError (Option Component) × World :=
  match w.registries[registry.number]? with
  | none => (.ok none, w)
  | some object =>
    let found := object.lookup title type
    (found.1, { w with registries := w.registries.setIfInBounds registry.number found.2 })

/-- Types without a name in messages. -/
def untitled (_ : ComponentType) : String := ""

def cacheComponent (w : World) (registry : Ref .registry) :
    Except LookupError (Option (Ref .cache)) × World :=
  let found := w.lookup untitled registry .cache
  (found.1.map fun component =>
    match component with
    | some (.cache cache) => some cache
    | _ => none, found.2)

def serviceComponent (w : World) (registry : Ref .registry) :
    Except LookupError (Option (Ref .service)) × World :=
  let found := w.lookup untitled registry .service
  (found.1.map fun component =>
    match component with
    | some (.service service) => some service
    | _ => none, found.2)

def setCache (w : World) (cache : Ref .cache) (object : CacheObject) : World :=
  { w with caches := w.caches.setIfInBounds cache.number object }

def setService (w : World) (service : Ref .service) (object : ServiceObject) : World :=
  { w with services := w.services.setIfInBounds service.number object }

def serviceOf (w : World) (cache : Ref .cache) : Option (Ref .service) × World :=
  match w.caches[cache.number]? with
  | some (.memory _ service) => (service, w)
  | some (.exact regions service regionCalls serviceCalls) =>
    (service, w.setCache cache (.exact regions service regionCalls (serviceCalls + 1)))
  | none => (none, w)

def regionAt (w : World) (cache : Ref .cache) (path : String) : Option Region × World :=
  match w.caches[cache.number]? with
  | some (.memory regions _) => (regions.find? path, w)
  | some (.exact regions service regionCalls serviceCalls) =>
    ((regions.lookup path).map (⟨path, ·⟩),
      w.setCache cache (.exact regions service (regionCalls + 1) serviceCalls))
  | none => (none, w)

def createRegion (w : World) (cache : Ref .cache) (path : String) : Option Region × World :=
  match w.caches[cache.number]? with
  | some (.memory regions service) =>
    let created := regions.create path
    (created.1, w.setCache cache (.memory created.2 service))
  | _ => (none, w)

def regionsOf (w : World) (cache : Ref .cache) : Option Regions :=
  match w.caches[cache.number]? with
  | some (.memory regions _) => some regions
  | _ => none

def findIndex (w : World) (service : Ref .service) (name path : String) :
    Option Handle × World :=
  match w.services[service.number]? with
  | some (.memory store cache) =>
    let found := store.find name path
    (found.1, w.setService service (.memory found.2 cache))
  | some (.scripted script) =>
    let found := script.find name path
    (found.1, w.setService service (.scripted found.2))
  | none => (none, w)

def createIndex (w : World) (service : Ref .service) (name path : String) (fields : Fields) :
    Except SearchError Unit × World :=
  match w.services[service.number]? with
  | some (.memory store cache) =>
    let created := store.create (cache.bind w.regionsOf) name path fields
    (created.1, w.setService service (.memory created.2 cache))
  | some (.scripted script) =>
    let created := script.create name path fields
    (created.1, w.setService service (.scripted created.2))
  | none => (.ok (), w)

def destroyIndex (w : World) (service : Ref .service) (index : Handle) :
    Except SearchError Unit × World :=
  match w.services[service.number]? with
  | some (.memory store cache) =>
    let destroyed := store.destroy index
    (destroyed.1, w.setService service (.memory destroyed.2 cache))
  | some (.scripted script) =>
    let destroyed := script.destroy index
    (destroyed.1, w.setService service (.scripted destroyed.2))
  | none => (.ok (), w)

def surroundings : Surroundings World
  | .probe probe capability, w => w.probe probe capability
  | .enforce switch, w => w.enforce switch
  | .startRealm realm, w => w.startRealm realm
  | .stopRealm realm, w => ((), w.stopRealm realm)
  | .supports realm c, w => (w.supports realm c, w)
  | .authenticate realm c, w => w.authenticate realm c
  | .register slot manager, w => w.register slot manager
  | .registered slot, w => (w.registered slot, w)
  | .withdraw slot, w => (w.registered slot, w.setSlot slot none)
  | .cacheComponent registry, w => w.cacheComponent registry
  | .serviceComponent registry, w => w.serviceComponent registry
  | .serviceOf cache, w => w.serviceOf cache
  | .regionAt cache path, w => w.regionAt cache path
  | .findIndex service name path, w => w.findIndex service name path
  | .createIndex service name path fields, w => w.createIndex service name path fields
  | .destroyIndex service index, w => w.destroyIndex service index
  | .warn warning, w => ((), w.warn warning)

/-- Does some work in the world. -/
def perform (w : World) (work : Work α) : α × World := work.run surroundings w

end World
end GatedStartup.Scripted
