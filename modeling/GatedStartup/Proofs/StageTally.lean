import GatedStartup.Proofs.Transcript
import GatedStartup.Rehearsal.Stage

/-! What becomes of the indexes of a stage, read off what it is asked: each index is there from a
creation that succeeds to a destruction that does, so the two keep account of how many there are. -/
namespace GatedStartup

open Engine Index

/-- An index is created. -/
def Exchange.creates : Event → Bool
  | ⟨.createIndex _ _ _ _, .ok ()⟩ => true
  | _ => false

/-- An index is to be destroyed, whatever the answer. -/
def Exchange.destroys (e : Event) : Bool :=
  match e.question with
  | .destroyIndex _ _ => true
  | _ => false

/-- No service refuses to destroy an index. -/
def Unrefused (t : Transcript) : Prop :=
  ∀ service handle error, ⟨.destroyIndex service handle, .error error⟩ ∉ t

section

variable {front rest t : Transcript}

theorem Unrefused.nil : Unrefused [] := fun _ _ _ => List.not_mem_nil

theorem Unrefused.append (first : Unrefused front) (later : Unrefused rest) :
    Unrefused (front ++ rest) := fun service handle error member =>
  (List.mem_append.mp member).elim (first service handle error) (later service handle error)

theorem Unrefused.tail {e : Event} (unrefused : Unrefused (e :: rest)) : Unrefused rest :=
  fun service handle error member =>
    unrefused service handle error (List.mem_cons_of_mem _ member)

theorem Spares.unrefused (spares : Spares .search t) : Unrefused t :=
  fun _ _ _ member => spares _ member rfl

end

namespace Rehearsal

variable {s : Setting} {w : Stage} {α : Type}

/-- The indexes of a stage after an exchange, from those before it. -/
structure Tallied (e : Event) (before after : Table IndexKey Handle) : Prop where
  ordered : before.Ordered → after.Ordered
  size : before.Ordered → (∀ service handle error, e ≠ ⟨.destroyIndex service handle, .error error⟩) →
    after.size + (if e.destroys then 1 else 0) = before.size + (if e.creates then 1 else 0)
  lost : ∀ key, before.contains key = true → after.contains key = false →
    ∃ service handle, e = ⟨.destroyIndex service handle, .ok ()⟩ ∧
      (⟨handle.name, handle.regionPath⟩ : IndexKey) = key
  made : ∀ service name path fields, e = ⟨.createIndex service name path fields, .ok ()⟩ →
    after.contains ⟨name, path⟩ = true

theorem Tallied.same {e : Event} (indexes : Table IndexKey Handle) (uncreated : e.creates = false)
    (undestroyed : e.destroys = false) : Tallied e indexes indexes where
  ordered := id
  size _ _ := by rw [uncreated, undestroyed]
  lost key there gone := by simp [there] at gone
  made service name path fields created := by simp [created, Exchange.creates] at uncreated

theorem tallied_create (service : Ref .service) (name path : String) (fields : Fields) (w : Stage) :
    let created := w.store.create (some w.regions) name path fields
    Tallied ⟨.createIndex service name path fields, created.1⟩ w.store.indexes created.2.indexes := by
  simp only [IndexStore.create]
  cases refused : w.store.refusal? (some w.regions) name path fields with
  | some error => exact .same _ rfl rfl
  | none =>
    have absent : w.store.indexes.get? ⟨name, path⟩ = none := by
      unfold IndexStore.refusal? at refused
      split at refused
      · contradiction
      · split at refused
        · contradiction
        · split at refused
          · contradiction
          · next unknown => simpa [Table.contains] using unknown
    refine ⟨fun ordered => Table.ordered_insert ordered _ _, fun _ _ => ?_, fun key there gone => ?_,
      fun _ _ _ _ same => ?_⟩
    · simpa [Exchange.creates, Exchange.destroys] using Table.size_insert absent _
    · simp only [Table.contains, Table.get?_insert] at there gone
      split at gone <;> simp_all
    · cases same
      simp [Table.contains]

theorem tallied_destroy (service : Ref .service) (handle : Handle) (w : Stage) :
    let destroyed := w.store.destroy handle
    Tallied ⟨.destroyIndex service handle, destroyed.1⟩ w.store.indexes destroyed.2.indexes := by
  simp only [IndexStore.destroy]
  by_cases there : w.store.indexes.contains ⟨handle.name, handle.regionPath⟩ = true
  · simp only [there, if_true]
    refine ⟨fun ordered => Table.ordered_erase ordered _, fun ordered _ => ?_,
      fun key known gone => ⟨service, handle, rfl, ?_⟩, nofun⟩
    · simpa [Exchange.creates, Exchange.destroys] using Table.size_erase ordered there
    · by_cases same : key = ⟨handle.name, handle.regionPath⟩
      · exact same.symm
      · simp only [Table.contains, Table.get?_erase, if_neg same] at known gone
        simp [known] at gone
  · simp only [there, Bool.false_eq_true, if_false]
    refine ⟨id, fun _ accepted => absurd rfl (accepted _ _ _), fun key known gone => ?_, nofun⟩
    simp [known] at gone

/-- One exchange with the stage. -/
theorem tallied (s : Setting) (question : Request) (w : Stage) :
    Tallied ⟨question, (s.surroundings question w).1⟩ w.store.indexes
      (s.surroundings question w).2.store.indexes := by
  cases question with
  | createIndex service name path fields => exact tallied_create service name path fields w
  | destroyIndex service handle => exact tallied_destroy service handle w
  | register slot manager =>
    simp only [Setting.surroundings]
    split <;> exact .same _ rfl rfl
  | _ => exact .same _ rfl rfl

/-- While no destruction is refused, the store has as many indexes more as have been created and not
destroyed again. -/
theorem store_tally (p : Work α) (w : Stage) (ordered : w.store.indexes.Ordered) :
    let after := (p.run s.surroundings w).2.store.indexes
    let t := p.events s.surroundings w
    after.Ordered ∧ (Unrefused t →
      after.size + t.countP Exchange.destroys = w.store.indexes.size + t.countP Exchange.creates) := by
  induction p generalizing w with
  | done value => exact ⟨ordered, fun _ => rfl⟩
  | ask question next ih =>
    have step := tallied s question w
    obtain ⟨last, counts⟩ := ih (s.surroundings question w).1 (s.surroundings question w).2
      (step.ordered ordered)
    refine ⟨last, fun unrefused => ?_⟩
    have first := step.size ordered fun service handle error same =>
      unrefused service handle error (same ▸ List.mem_cons_self)
    have later := counts unrefused.tail
    simp only [Program.run, Program.events, Program.questions, List.map_cons,
      List.countP_cons] at later ⊢
    omega

/-- An index that is there and is not there in the end has been destroyed. -/
theorem destroyed_of_lost (p : Work α) (w : Stage) {key : IndexKey}
    (there : w.store.indexes.contains key = true)
    (lost : (p.run s.surroundings w).2.store.indexes.contains key = false) :
    ∃ service handle, ⟨.destroyIndex service handle, .ok ()⟩ ∈ p.events s.surroundings w ∧
      (⟨handle.name, handle.regionPath⟩ : IndexKey) = key := by
  induction p generalizing w with
  | done value => simp [Program.run, there] at lost
  | ask question next ih =>
    cases still : (s.surroundings question w).2.store.indexes.contains key with
    | true =>
      obtain ⟨service, handle, member, named⟩ := ih _ _ still lost
      exact ⟨service, handle, List.mem_cons_of_mem _ member, named⟩
    | false =>
      obtain ⟨service, handle, same, named⟩ := (tallied s question w).lost key there still
      exact ⟨service, handle, same ▸ List.mem_cons_self, named⟩

/-- An index that has been created and is not there in the end has been destroyed since. -/
theorem destroyed_of_created (p : Work α) (w : Stage) {front rest : Transcript}
    {service : Ref .service} {name path : String} {fields : Fields}
    (whole : p.events s.surroundings w =
      front ++ ⟨.createIndex service name path fields, .ok ()⟩ :: rest)
    (lost : (p.run s.surroundings w).2.store.indexes.contains ⟨name, path⟩ = false) :
    ∃ service' handle, ⟨.destroyIndex service' handle, .ok ()⟩ ∈ rest ∧
      handle.name = name ∧ handle.regionPath = path := by
  induction p generalizing w front with
  | done value => cases front <;> contradiction
  | ask question next ih =>
    cases front with
    | nil =>
      obtain ⟨created, later⟩ := List.cons.inj whole
      have there := (tallied s question w).made _ _ _ _ created
      obtain ⟨service', handle, member, same⟩ := destroyed_of_lost _ _ there lost
      obtain ⟨rfl, rfl⟩ := IndexKey.mk.inj same
      exact ⟨service', handle, later ▸ member, rfl, rfl⟩
    | cons e front => exact ih _ _ (List.cons.inj whole).2 lost

end Rehearsal
end GatedStartup
