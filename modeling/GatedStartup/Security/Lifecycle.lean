import GatedStartup.Request

/-! Starting and stopping realms. Realms are started in order and stopped last first; only what
was started is stopped, and a started realm is not started again. -/
namespace GatedStartup

structure Lifecycle where
  /-- The realms that run, in the order they were started. -/
  started : List Realm
deriving DecidableEq, Repr

namespace Lifecycle

def idle : Lifecycle := ⟨[]⟩

/-- How many realms run. -/
def count (l : Lifecycle) : Nat := l.started.length

def runs (l : Lifecycle) (realm : Realm) : Bool :=
  l.started.any fun r => r.number == realm.number

/-- Starts the realms that do not run yet, up to the first that fails. -/
def start (l : Lifecycle) : List Realm → Work (Except ActivationError Unit × Lifecycle)
  | [] => pure (.ok (), l)
  | realm :: rest =>
    if l.runs realm then l.start rest
    else do
      match ← ask (.startRealm realm) with
      | .error error => pure (.error (.realmStart realm.name error.message), l)
      | .ok () => start ⟨l.started ++ [realm]⟩ rest

def stopEach : List Realm → Work Unit
  | [] => pure ()
  | realm :: rest => do
    ask (.stopRealm realm)
    stopEach rest

def stop (l : Lifecycle) : Work Lifecycle := do
  stopEach l.started.reverse
  pure idle

end Lifecycle
end GatedStartup
