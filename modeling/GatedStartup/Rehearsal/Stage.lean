import GatedStartup.Capability.Probe
import GatedStartup.Directory
import GatedStartup.Engine.IndexStore
import GatedStartup.Request

/-! The surroundings of a dry run: one cache held in memory with its search service, one slot,
one switch, the realms of a configuration, and a probe of the environment. References are not
told apart, since there is one object of each kind. -/
namespace GatedStartup.Rehearsal

open Engine

inductive ComponentType where
  | cache | service
deriving DecidableEq, Repr

inductive Component where
  | cache (cache : Ref .cache)
  | service (service : Ref .service)
deriving DecidableEq, Repr

instance : Typed Component ComponentType where
  typeOf
    | .cache _ => .cache
    | .service _ => .service

def ComponentType.title : ComponentType → String
  | .cache => "cache"
  | .service => "search"

def theCache : Ref .cache := ⟨0⟩
def theService : Ref .service := ⟨0⟩
def theRegistry : Ref .registry := ⟨0⟩
def theProbe : Ref .probe := ⟨0⟩
def theSwitch : Ref .switch := ⟨0⟩
def theSlot : Ref .slot := ⟨0⟩

/-- What does not change in a dry run. The number of a realm is its place in `accounts`. -/
structure Setting where
  probe : EnvironmentProbe
  accounts : List Accounts
  directory : Directory ComponentType Component

/-- What changes. Warnings are kept in order. -/
structure Stage where
  regions : Regions
  store : IndexStore
  enforced : Bool
  slot : Option Manager
  warnings : List Warning
deriving DecidableEq, Repr

namespace Setting

/-- A realm without accounts has no users. -/
def describeRealm (s : Setting) (realm : Realm) : String :=
  (s.accounts[realm.number]?.getD ⟨realm.name, .empty⟩).describe

def cacheComponent (s : Setting) : Except LookupError (Option (Ref .cache)) :=
  (s.directory.lookup ComponentType.title .cache).map fun found =>
    match found with
    | some (.cache cache) => some cache
    | _ => none

def serviceComponent (s : Setting) : Except LookupError (Option (Ref .service)) :=
  (s.directory.lookup ComponentType.title .service).map fun found =>
    match found with
    | some (.service service) => some service
    | _ => none

def startRealm (s : Setting) (realm : Realm) : Except AuthError Unit :=
  match s.accounts[realm.number]? with
  | none => .ok ()
  | some accounts => accounts.start

def authenticate (s : Setting) (realm : Realm) (c : Credentials) :
    Except AuthError (Option Principal) :=
  match s.accounts[realm.number]? with
  | none => .ok none
  | some accounts => accounts.authenticate c

def surroundings (s : Setting) : Surroundings Stage
  | .probe _ capability, w => (s.probe.isPresent capability, w)
  | .enforce _, w => (true, { w with enforced := true })
  | .startRealm realm, w => (s.startRealm realm, w)
  | .stopRealm _, w => ((), w)
  | .supports _ _, w => (true, w)
  | .authenticate realm c, w => (s.authenticate realm c, w)
  | .register _ manager, w =>
    if w.slot.isSome then (false, w) else (true, { w with slot := some manager })
  | .registered _, w => (w.slot, w)
  | .withdraw _, w => (w.slot, { w with slot := none })
  | .cacheComponent _, w => (s.cacheComponent, w)
  | .serviceComponent _, w => (s.serviceComponent, w)
  | .serviceOf _, w => (some theService, w)
  | .regionAt _ path, w => (w.regions.find? path, w)
  | .findIndex _ name path, w =>
    let found := w.store.find name path
    (found.1, { w with store := found.2 })
  | .createIndex _ name path fields, w =>
    let created := w.store.create (some w.regions) name path fields
    (created.1, { w with store := created.2 })
  | .destroyIndex _ index, w =>
    let destroyed := w.store.destroy index
    (destroyed.1, { w with store := destroyed.2 })
  | .warn warning, w => ((), { w with warnings := w.warnings ++ [warning] })

end Setting
end GatedStartup.Rehearsal
