import GatedStartup.Failure
import GatedStartup.Index.Definition
import GatedStartup.Program
import GatedStartup.Security.Realm

/-! What a startup asks of its surroundings: the environment, the engine and its services, the
component registry, the realms, the slot of the security manager, and the log. -/
namespace GatedStartup

/-- The kinds of objects in the surroundings. -/
inductive Kind where
  | probe | switch | slot | registry | cache | service
deriving DecidableEq, Repr

/-- An object of the surroundings. Two references are to the same object when they are equal. -/
structure Ref (kind : Kind) where
  number : Nat
deriving DecidableEq, Repr

/-- Who built a manager, and how many it had built before. -/
structure ManagerId where
  builder : Nat
  serial : Nat
deriving DecidableEq, Repr

/-- A security manager over ordered realms. Managers are told apart by `id`. -/
structure Manager where
  id : ManagerId
  realms : List Realm
deriving DecidableEq, Repr

inductive Request where
  /-- Is the capability there? -/
  | probe (probe : Ref .probe) (capability : String)
  /-- Switch enforcement on: is it on now? -/
  | enforce (switch : Ref .switch)
  | startRealm (realm : Realm)
  | stopRealm (realm : Realm)
  /-- Can the realm judge the credentials at all? -/
  | supports (realm : Realm) (credentials : Credentials)
  | authenticate (realm : Realm) (credentials : Credentials)
  /-- Put a manager into an empty slot: was it empty? -/
  | register (slot : Ref .slot) (manager : Manager)
  | registered (slot : Ref .slot)
  /-- Empty the slot. -/
  | withdraw (slot : Ref .slot)
  | cacheComponent (registry : Ref .registry)
  | serviceComponent (registry : Ref .registry)
  /-- The search service a cache offers. -/
  | serviceOf (cache : Ref .cache)
  | regionAt (cache : Ref .cache) (path : String)
  | findIndex (service : Ref .service) (name regionPath : String)
  | createIndex (service : Ref .service) (name regionPath : String) (fields : Index.Fields)
  | destroyIndex (service : Ref .service) (index : Index.Handle)
  | warn (warning : Warning)

abbrev Request.Reply : Request → Type
  | .probe _ _ => Bool
  | .enforce _ => Bool
  | .startRealm _ => Except AuthError Unit
  | .stopRealm _ => Unit
  | .supports _ _ => Bool
  | .authenticate _ _ => Except AuthError (Option Principal)
  | .register _ _ => Bool
  | .registered _ => Option Manager
  | .withdraw _ => Option Manager
  | .cacheComponent _ => Except LookupError (Option (Ref .cache))
  | .serviceComponent _ => Except LookupError (Option (Ref .service))
  | .serviceOf _ => Option (Ref .service)
  | .regionAt _ _ => Option Index.Region
  | .findIndex _ _ _ => Option Index.Handle
  | .createIndex _ _ _ _ => Except SearchError Unit
  | .destroyIndex _ _ => Except SearchError Unit
  | .warn _ => Unit

/-- A program over the surroundings of a startup. -/
abbrev Work (α : Type) := Program Request.Reply α

/-- Surroundings of a startup with state `W`. -/
abbrev Surroundings (W : Type) := Handler Request.Reply W

def ask (request : Request) : Work request.Reply := .send request

end GatedStartup
