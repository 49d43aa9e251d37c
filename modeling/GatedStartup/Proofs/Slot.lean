import GatedStartup.Proofs.Transcript
import GatedStartup.Rehearsal.Stage

/-! The slot of a security manager, seen from outside: what it holds is changed by the questions
about it and by nothing else. -/
namespace GatedStartup

/-- The slot that a question is about. -/
def Request.slot? : Request → Option (Ref .slot)
  | .register slot _ | .registered slot | .withdraw slot => some slot
  | _ => none

theorem Request.slot?_eq_none {request : Request} (other : request.topic ≠ .manager) :
    request.slot? = none := by
  cases request <;> first | rfl | contradiction

/-- `held` tells what the slot holds. Nobody writes to the slot but those who ask. -/
structure KeepsSlot (h : Surroundings W) (slot : Ref .slot) (held : W → Option Manager) :
    Prop where
  register : ∀ manager w, (h (.register slot manager) w).1 = (held w).isNone ∧
    held (h (.register slot manager) w).2 = (held w).or (some manager)
  registered : ∀ w, (h (.registered slot) w).1 = held w ∧ held (h (.registered slot) w).2 = held w
  withdraw : ∀ w, (h (.withdraw slot) w).1 = held w ∧ held (h (.withdraw slot) w).2 = none
  others : ∀ request w, request.slot? = none → held (h request w).2 = held w

theorem Rehearsal.keepsSlot (s : Rehearsal.Setting) (slot : Ref .slot) :
    KeepsSlot s.surroundings slot Rehearsal.Stage.slot where
  register manager w := by cases full : w.slot <;> simp [Setting.surroundings, full]
  registered w := ⟨rfl, rfl⟩
  withdraw w := ⟨rfl, rfl⟩
  others request w other := by
    cases request <;> first | rfl | contradiction

/-- The answers about the slot fit together: it holds `first` before them and `last` after. -/
inductive SlotTrace (slot : Ref .slot) : Option Manager → Transcript → Option Manager → Prop where
  | nil : SlotTrace slot held [] held
  | register : SlotTrace slot (held.or (some manager)) rest last →
      SlotTrace slot held (⟨.register slot manager, held.isNone⟩ :: rest) last
  | registered : SlotTrace slot held rest last →
      SlotTrace slot held (⟨.registered slot, held⟩ :: rest) last
  | withdraw : SlotTrace slot none rest last →
      SlotTrace slot held (⟨.withdraw slot, held⟩ :: rest) last
  | other {e : Event} : e.question.slot? = none → SlotTrace slot held rest last →
      SlotTrace slot held (e :: rest) last

namespace SlotTrace

variable {slot : Ref .slot} {first last : Option Manager} {front rest : Transcript}

@[simp] theorem at_end : SlotTrace slot first [] last ↔ last = first :=
  ⟨fun trace => by cases trace; rfl, fun same => same ▸ .nil⟩

@[simp] theorem at_register {empty : Bool} :
    SlotTrace slot first (⟨.register slot manager, empty⟩ :: rest) last ↔
      empty = first.isNone ∧ SlotTrace slot (first.or (some manager)) rest last := by
  constructor
  · intro trace
    cases trace with
    | register later => exact ⟨rfl, later⟩
    | other silent _ => contradiction
  · rintro ⟨rfl, later⟩
    exact .register later

@[simp] theorem at_registered {current : Option Manager} :
    SlotTrace slot first (⟨.registered slot, current⟩ :: rest) last ↔
      current = first ∧ SlotTrace slot first rest last := by
  constructor
  · intro trace
    cases trace with
    | registered later => exact ⟨rfl, later⟩
    | other silent _ => contradiction
  · rintro ⟨rfl, later⟩
    exact .registered later

@[simp] theorem at_withdraw {withdrawn : Option Manager} :
    SlotTrace slot first (⟨.withdraw slot, withdrawn⟩ :: rest) last ↔
      withdrawn = first ∧ SlotTrace slot none rest last := by
  constructor
  · intro trace
    cases trace with
    | withdraw later => exact ⟨rfl, later⟩
    | other silent _ => contradiction
  · rintro ⟨rfl, later⟩
    exact .withdraw later

theorem at_other {e : Event} (silent : e.question.slot? = none) :
    SlotTrace slot first (e :: rest) last ↔ SlotTrace slot first rest last := by
  refine ⟨fun trace => ?_, .other silent⟩
  cases trace with
  | register | registered | withdraw => contradiction
  | other _ later => exact later

@[simp] theorem at_enforce {switch : Ref .switch} {enforced : Bool} :
    SlotTrace slot first (⟨.enforce switch, enforced⟩ :: rest) last ↔
      SlotTrace slot first rest last :=
  at_other rfl

@[simp] theorem at_warn {warning : Warning} :
    SlotTrace slot first (⟨.warn warning, ()⟩ :: rest) last ↔ SlotTrace slot first rest last :=
  at_other rfl

theorem append : SlotTrace slot first (front ++ rest) last ↔
    ∃ middle, SlotTrace slot first front middle ∧ SlotTrace slot middle rest last := by
  constructor
  · intro whole
    induction front generalizing first with
    | nil => exact ⟨first, .nil, whole⟩
    | cons e front ih =>
      cases whole with
      | register later => obtain ⟨middle, a, b⟩ := ih later; exact ⟨middle, .register a, b⟩
      | registered later => obtain ⟨middle, a, b⟩ := ih later; exact ⟨middle, .registered a, b⟩
      | withdraw later => obtain ⟨middle, a, b⟩ := ih later; exact ⟨middle, .withdraw a, b⟩
      | other silent later => obtain ⟨middle, a, b⟩ := ih later; exact ⟨middle, .other silent a, b⟩
  · rintro ⟨middle, a, b⟩
    induction a with
    | nil => exact b
    | register _ ih => exact .register (ih b)
    | registered _ ih => exact .registered (ih b)
    | withdraw _ ih => exact .withdraw (ih b)
    | other silent _ ih => exact .other silent (ih b)

/-- A slot that is not asked about keeps what it holds. -/
theorem silent (quiet : Spares .manager front) :
    SlotTrace slot first front last ↔ last = first := by
  induction front with
  | nil => exact at_end
  | cons e front ih =>
    obtain ⟨other, later⟩ := spares_cons.mp quiet
    rw [at_other (Request.slot?_eq_none other), ih later]

theorem spared_append (quiet : Spares .manager front) :
    SlotTrace slot first (front ++ rest) last ↔ SlotTrace slot first rest last := by
  rw [append]
  constructor
  · rintro ⟨middle, early, late⟩
    exact (silent quiet).mp early ▸ late
  · exact fun late => ⟨first, (silent quiet).mpr rfl, late⟩

theorem append_spared (quiet : Spares .manager rest) :
    SlotTrace slot first (front ++ rest) last ↔ SlotTrace slot first front last := by
  rw [append]
  constructor
  · rintro ⟨middle, early, late⟩
    exact (silent quiet).mp late ▸ early
  · exact fun early => ⟨last, early, (silent quiet).mpr rfl⟩

end SlotTrace

section

variable {h : Surroundings W} {slot : Ref .slot} {held : W → Option Manager}

theorem KeepsSlot.exchange (keeps : KeepsSlot h slot held) {request : Request}
    (about : ∀ s, request.slot? = some s → s = slot) (w : W) {rest : Transcript}
    {last : Option Manager} (later : SlotTrace slot (held (h request w).2) rest last) :
    SlotTrace slot (held w) (⟨request, (h request w).1⟩ :: rest) last := by
  cases request with
  | register s manager =>
    obtain rfl := about s rfl
    obtain ⟨answer, after⟩ := keeps.register manager w
    rw [after] at later
    rw [answer]
    exact .register later
  | registered s =>
    obtain rfl := about s rfl
    obtain ⟨answer, after⟩ := keeps.registered w
    rw [after] at later
    rw [answer]
    exact .registered later
  | withdraw s =>
    obtain rfl := about s rfl
    obtain ⟨answer, after⟩ := keeps.withdraw w
    rw [after] at later
    rw [answer]
    exact .withdraw later
  | _ =>
    rw [keeps.others _ w (by rfl)] at later
    exact .other rfl later

/-- The only slot that the transcript is about. -/
def OnlySlot (slot : Ref .slot) (t : Transcript) : Prop :=
  ∀ e ∈ t, ∀ s, e.question.slot? = some s → s = slot

/-- What a program finds and leaves in the one slot that it asks about. -/
theorem KeepsSlot.trace (keeps : KeepsSlot h slot held) {p : Work α} {w : W}
    (only : OnlySlot slot (p.events h w)) :
    SlotTrace slot (held w) (p.events h w) (held (p.run h w).2) := by
  induction p generalizing w with
  | done value => exact .nil
  | ask request next ih =>
    obtain ⟨about, later⟩ := List.forall_mem_cons.mp only
    exact keeps.exchange about w (ih _ later)

end

theorem OnlySlot.append {slot : Ref .slot} {front rest : Transcript} (first : OnlySlot slot front)
    (later : OnlySlot slot rest) : OnlySlot slot (front ++ rest) :=
  List.forall_mem_append.mpr ⟨first, later⟩

theorem Spares.onlySlot {slot : Ref .slot} {t : Transcript} (spares : Spares .manager t) :
    OnlySlot slot t := by
  intro e member s about
  rw [Request.slot?_eq_none (spares e member)] at about
  contradiction

end GatedStartup
