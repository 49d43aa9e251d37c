import GatedStartup.Security.Manager

/-! Activation of security: a manager is built from the realms, put into the slot, and the engine
is asked to enforce it. An activation remembers the manager it put there until it takes it
back. Every manager that is built is another, also one that is refused. -/
namespace GatedStartup

structure Activation where
  /-- Tells the managers of this activation from those of others. -/
  number : Nat
  slot : Ref .slot
  switch : Ref .switch
  active : Option Manager
  /-- How many managers have been built before. -/
  serial : Nat
deriving DecidableEq, Repr

namespace Activation

def inactive (number : Nat) (slot : Ref .slot) (switch : Ref .switch) : Activation :=
  ⟨number, slot, switch, none, 0⟩

def isActive (a : Activation) : Bool := a.active.isSome

/-- The activation once it has built a manager, whatever comes of that. -/
def built (a : Activation) : Activation := { a with serial := a.serial + 1 }

@[simp] theorem built_number (a : Activation) : a.built.number = a.number := rfl

@[simp] theorem built_slot (a : Activation) : a.built.slot = a.slot := rfl

@[simp] theorem built_switch (a : Activation) : a.built.switch = a.switch := rfl

@[simp] theorem built_active (a : Activation) : a.built.active = a.active := rfl

/-- Without realms nothing is activated. A manager the engine will not enforce is withdrawn. -/
def activate (a : Activation) (realms : List Realm) :
    Work (Except ActivationError (Option Manager) × Activation) :=
  match a.active with
  | some manager => pure (.ok (some manager), a)
  | none =>
    match Manager.ofRealms? ⟨a.number, a.serial⟩ realms with
    | none => pure (.ok none, a)
    | some manager => do
      match ← ask (.register a.slot manager) with
      | false => pure (.error .alreadyRegistered, a.built)
      | true =>
        match ← ask (.enforce a.switch) with
        | false =>
          ask (.warn .enforcementRefused)
          let _ ← ask (.withdraw a.slot)
          pure (.error .enforcementNotEnabled, a.built)
        | true => pure (.ok (some manager), { a.built with active := some manager })

/-- Takes the manager back. The slot is emptied only while it holds that very manager. Says
whether there was anything to take back. -/
def deactivate (a : Activation) : Work (Bool × Activation) :=
  match a.active with
  | none => pure (false, a)
  | some manager => do
    let current ← ask (.registered a.slot)
    if current.map (·.id) = some manager.id then
      let _ ← ask (.withdraw a.slot)
    ask (.warn .activationUndone)
    pure (true, { a with active := none })

def describe (a : Activation) : String :=
  Text.record "SecurityActivation" [("activated", Text.boolean a.isActive)] true

end Activation
end GatedStartup
