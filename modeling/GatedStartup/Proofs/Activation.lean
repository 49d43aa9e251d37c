import GatedStartup.Proofs.Slot
import GatedStartup.Security.Activation

/-! What activating security and taking it back can do, and what either leaves in the slot. -/
namespace GatedStartup

variable {a a' : Activation} {realms : List Realm} {t : Transcript} {first last : Option Manager}

/-- The manager that an activation builds next. -/
def Activation.next (a : Activation) (realms : List Realm) : Manager :=
  ⟨⟨a.number, a.serial⟩, realms⟩

/-- All that activating can do: questions with answers, result, and activation afterwards. -/
inductive Activated (a : Activation) (realms : List Realm) :
    Transcript → Except ActivationError (Option Manager) → Activation → Prop where
  | again : a.active = some manager → Activated a realms [] (.ok (some manager)) a
  | needless : a.active = none → realms = [] → Activated a realms [] (.ok none) a
  | taken : a.active = none → realms ≠ [] →
      Activated a realms [⟨.register a.slot (a.next realms), false⟩]
        (.error .alreadyRegistered) a.built
  | refused : a.active = none → realms ≠ [] →
      Activated a realms
        [⟨.register a.slot (a.next realms), true⟩, ⟨.enforce a.switch, false⟩,
          ⟨.warn .enforcementRefused, ()⟩, ⟨.withdraw a.slot, withdrawn⟩]
        (.error .enforcementNotEnabled) a.built
  | enforced : a.active = none → realms ≠ [] →
      Activated a realms
        [⟨.register a.slot (a.next realms), true⟩, ⟨.enforce a.switch, true⟩]
        (.ok (some (a.next realms)))
        { a.built with active := some (a.next realms) }

/-- All that taking back can do. -/
inductive Deactivated (a : Activation) : Transcript → Activation → Prop where
  | nothing : a.active = none → Deactivated a [] a
  | foreign {current : Option Manager} : a.active = some manager →
      current.map (·.id) ≠ some manager.id →
      Deactivated a [⟨.registered a.slot, current⟩, ⟨.warn .activationUndone, ()⟩]
        { a with active := none }
  | withdrawn {current : Option Manager} : a.active = some manager →
      current.map (·.id) = some manager.id →
      Deactivated a
        [⟨.registered a.slot, current⟩, ⟨.withdraw a.slot, old⟩, ⟨.warn .activationUndone, ()⟩]
        { a with active := none }

namespace Activation

theorem activate_ends {result : Except ActivationError (Option Manager)}
    (ends : (a.activate realms).Ends t (result, a')) : Activated a realms t result a' := by
  rw [activate] at ends
  cases active : a.active with
  | some manager =>
    obtain ⟨rfl, rfl, rfl⟩ := by simpa [active] using ends
    exact .again active
  | none =>
    by_cases vacant : realms = []
    · obtain ⟨rfl, rfl, rfl⟩ := by simpa [active, Manager.ofRealms?, vacant] using ends
      exact .needless active vacant
    simp only [active, Manager.ofRealms?, List.isEmpty_iff, vacant, if_false] at ends
    obtain ⟨registered, rest, rfl, afterRegister⟩ := ends_ask_bind.mp ends
    cases registered with
    | false =>
      obtain ⟨rfl, rfl, rfl⟩ := by simpa using afterRegister
      exact .taken active vacant
    | true =>
      obtain ⟨enforced, rest, rfl, afterEnforce⟩ := ends_ask_bind.mp afterRegister
      cases enforced with
      | false =>
        obtain ⟨_, rest, rfl, afterWarning⟩ := ends_ask_bind.mp afterEnforce
        obtain ⟨withdrawn, rest, rfl, done⟩ := ends_ask_bind.mp afterWarning
        obtain ⟨rfl, rfl, rfl⟩ := by simpa using done
        exact .refused active vacant
      | true =>
        obtain ⟨rfl, rfl, rfl⟩ := by simpa using afterEnforce
        exact .enforced active vacant

theorem deactivate_ends {undone : Bool} (ends : a.deactivate.Ends t (undone, a')) :
    Deactivated a t a' := by
  rw [deactivate] at ends
  cases active : a.active with
  | none =>
    obtain ⟨rfl, rfl, rfl⟩ := by simpa [active] using ends
    exact .nothing active
  | some manager =>
    simp only [active] at ends
    obtain ⟨current, rest, rfl, afterLook⟩ := ends_ask_bind.mp ends
    by_cases own : current.map (·.id) = some manager.id
    · simp only [own, if_true] at afterLook
      obtain ⟨old, rest, rfl, afterWithdrawal⟩ := ends_ask_bind.mp afterLook
      obtain ⟨_, rest, rfl, done⟩ := ends_ask_bind.mp afterWithdrawal
      obtain ⟨rfl, rfl, rfl⟩ := by simpa using done
      exact .withdrawn active own
    · simp only [own, if_false] at afterLook
      obtain ⟨_, rest, rfl, done⟩ := ends_ask_bind.mp afterLook
      obtain ⟨rfl, rfl, rfl⟩ := by simpa using done
      exact .foreign active own

end Activation

/-- The slot holds what the activation remembers. -/
def Activation.Backed (a : Activation) (held : Option Manager) : Prop :=
  ∀ manager, a.active = some manager → held = some manager

theorem Activation.Backed.of_inactive {held : Option Manager} (inactive : a.active = none) :
    a.Backed held := by
  simp [Backed, inactive]

theorem Activation.Backed.of_active_eq {held : Option Manager} (backed : a.Backed held)
    (same : a'.active = a.active) : a'.Backed held :=
  fun m active => backed m (same ▸ active)

theorem Activated.spares {result : Except ActivationError (Option Manager)}
    (activated : Activated a realms t result a') {topic : Topic} (other : topic ≠ .manager)
    (unlogged : topic ≠ .log) : Spares topic t := by
  cases activated <;> simp [Request.topic, other.symm, unlogged.symm]

theorem Deactivated.spares (deactivated : Deactivated a t a') {topic : Topic}
    (other : topic ≠ .manager) (unlogged : topic ≠ .log) : Spares topic t := by
  cases deactivated <;> simp [Request.topic, other.symm, unlogged.symm]

theorem Activated.onlySlot {result : Except ActivationError (Option Manager)}
    (activated : Activated a realms t result a') : OnlySlot a.slot t := by
  cases activated <;> simp [OnlySlot, Request.slot?]

theorem Deactivated.onlySlot (deactivated : Deactivated a t a') : OnlySlot a.slot t := by
  cases deactivated <;> simp [OnlySlot, Request.slot?]

namespace Activated

variable {result : Except ActivationError (Option Manager)}

theorem slot_eq (activated : Activated a realms t result a') : a'.slot = a.slot := by
  cases activated <;> rfl

theorem backed (activated : Activated a realms t result a')
    (trace : SlotTrace a.slot first t last) (before : a.Backed first) : a'.Backed last := by
  cases activated with
  | again _ | needless _ _ => simp at trace; exact trace ▸ before
  | taken inactive _ | refused inactive _ => exact .of_inactive inactive
  | enforced _ _ =>
    obtain ⟨empty, rfl⟩ : first = none ∧ last = first.or (some (a.next realms)) := by
      simpa using trace
    simp [Activation.Backed, empty]

/-- All that a failed activation leaves is that a manager has been built. -/
theorem failed {error : ActivationError} (activated : Activated a realms t (.error error) a')
    (trace : SlotTrace a.slot first t last) : last = first ∧ a' = a.built ∧ a.active = none := by
  cases activated with
  | taken inactive _ =>
    obtain ⟨full, rfl⟩ : first.isSome ∧ last = first.or (some (a.next realms)) := by
      simpa [Option.isNone_iff_eq_none, Option.isSome_iff_ne_none] using trace
    obtain ⟨held, rfl⟩ := Option.isSome_iff_exists.mp full
    exact ⟨rfl, rfl, inactive⟩
  | refused inactive _ =>
    obtain ⟨empty, -, rfl⟩ := by simpa using trace
    exact ⟨empty.symm, rfl, inactive⟩

end Activated

namespace Deactivated

theorem inactive (deactivated : Deactivated a t a') : a'.active = none := by
  cases deactivated <;> first | assumption | rfl

theorem slot_eq (deactivated : Deactivated a t a') : a'.slot = a.slot := by
  cases deactivated <;> rfl

/-- An activation that is backed by the slot empties it, any other leaves it alone. -/
theorem vacates (deactivated : Deactivated a t a') (trace : SlotTrace a.slot first t last)
    (backed : a.Backed first) : last = if a.active.isSome then none else first := by
  cases deactivated with
  | nothing inactive => simpa [inactive] using trace
  | foreign active differs =>
    obtain rfl := backed _ active
    simp at trace
    simp [trace.1] at differs
  | withdrawn active _ =>
    obtain ⟨-, -, rfl⟩ := by simpa using trace
    simp [active]

end Deactivated

/-- Activating and taking back leaves the slot as it was found. -/
theorem Activated.undone {a'' : Activation} {t' : Transcript} {middle : Option Manager}
    {manager : Option Manager} (inactive : a.active = none)
    (activated : Activated a realms t (.ok manager) a') (trace : SlotTrace a.slot first t middle)
    (deactivated : Deactivated a' t' a'') (trace' : SlotTrace a.slot middle t' last) :
    last = first := by
  have backed := activated.backed trace (.of_inactive inactive)
  rw [← activated.slot_eq] at trace'
  rw [deactivated.vacates trace' backed]
  cases activated with
  | again active => simp [inactive] at active
  | needless => simpa [inactive] using trace
  | enforced =>
    obtain ⟨empty, -⟩ : first = none ∧ _ := by simpa using trace
    simp [empty]

end GatedStartup
