import GatedStartup.Proofs.Pass

/-! What a run leaves behind: of the realms, in the slot of the manager, and in the catalogue. -/
namespace GatedStartup

open Lookup Index

theorem Spares.runningAfter_eq {t : Transcript} (spares : Spares .realms t) (before : List Realm) :
    runningAfter before t = before :=
  (realms_spared before spares).2.2

namespace Secured

variable {s s' : Startup} {t : Transcript} {result : Except ActivationError (Option Manager)}

/-- Realms are started, and what follows is not about realms. -/
theorem realms (secured : Secured s t result s') :
    ∃ front rest, t = front ++ rest ∧ Starting s.lifecycle front s'.lifecycle ∧
      Spares .realms rest := by
  cases secured with
  | unstarted starting => exact ⟨t, [], by simp, starting, spares_nil⟩
  | started starting activated =>
    exact ⟨_, _, rfl, starting, activated.spares (by decide) (by decide)⟩

theorem running (secured : Secured s t result s') :
    stoppedIn t = [] ∧ s'.lifecycle.started = s.lifecycle.started ++ startedIn t ∧
      runningAfter s.lifecycle.started t = s'.lifecycle.started := by
  obtain ⟨front, rest, rfl, starting, spares⟩ := secured.realms
  obtain ⟨none, running⟩ := starting.running
  obtain ⟨unstarted, unstopped, -⟩ := realms_spared s'.lifecycle.started spares
  refine ⟨by simp [none, unstopped], by simp [starting.remembered, unstarted], ?_⟩
  rw [runningAfter_append, running, spares.runningAfter_eq]

theorem distinct (secured : Secured s t result s') :
    s.lifecycle.Distinct → s'.lifecycle.Distinct := by
  obtain ⟨_, _, _, starting, _⟩ := secured.realms
  exact starting.distinct

theorem spares_search (secured : Secured s t result s') : Spares .search t := by
  cases secured with
  | unstarted starting => exact starting.spares (by decide)
  | started starting activated =>
    exact spares_append.mpr ⟨starting.spares (by decide), activated.spares (by decide) (by decide)⟩

theorem unwarned (secured : Secured s t result s') (name : String) : Unwarned t name := by
  cases secured with
  | unstarted starting => exact (starting.spares (by decide)).unwarned
  | started starting activated =>
    refine (starting.spares (by decide)).unwarned.append ?_
    cases activated <;> simp [Unwarned]

theorem onlySlot (secured : Secured s t result s') : OnlySlot s.activation.slot t := by
  cases secured with
  | unstarted starting => exact (starting.spares (by decide)).onlySlot
  | started starting activated =>
    exact (starting.spares (by decide)).onlySlot.append activated.onlySlot

theorem slot_eq (secured : Secured s t result s') : s'.activation.slot = s.activation.slot := by
  cases secured with
  | unstarted _ => rfl
  | started _ activated => exact activated.slot_eq

variable {first last : Option Manager}

theorem backed (secured : Secured s t result s') (trace : SlotTrace s.activation.slot first t last)
    (before : s.activation.Backed first) : s'.activation.Backed last := by
  cases secured with
  | unstarted starting =>
    obtain rfl := (SlotTrace.silent (starting.spares (by decide))).mp trace
    exact before
  | started starting activated =>
    exact activated.backed ((SlotTrace.spared_append (starting.spares (by decide))).mp trace) before

/-- Securing that fails leaves the slot and what the activation remembers as they were. -/
theorem failed {error : ActivationError} (secured : Secured s t (.error error) s')
    (trace : SlotTrace s.activation.slot first t last) :
    last = first ∧ s'.activation.active = s.activation.active := by
  cases secured with
  | unstarted starting => exact ⟨(SlotTrace.silent (starting.spares (by decide))).mp trace, rfl⟩
  | started starting activated =>
    have trace := (SlotTrace.spared_append (starting.spares (by decide))).mp trace
    obtain ⟨same, built, -⟩ := activated.failed trace
    exact ⟨same, by rw [built, Activation.built_active]⟩

/-- Securing that succeeds and is taken back empties the slot if an earlier manager was there,
and leaves it alone otherwise. -/
theorem undone {manager : Option Manager} {t' : Transcript} {a : Activation}
    {middle : Option Manager} (secured : Secured s t (.ok manager) s')
    (trace : SlotTrace s.activation.slot first t middle)
    (deactivated : Deactivated s'.activation t' a)
    (trace' : SlotTrace s.activation.slot middle t' last) (before : s.activation.Backed first) :
    last = if s.activation.active.isSome then none else first := by
  have backed := secured.backed trace before
  rw [← secured.slot_eq] at trace'
  cases secured with
  | started starting activated =>
    have trace := (SlotTrace.spared_append (starting.spares (by decide))).mp trace
    cases active : s.activation.active with
    | none => exact activated.undone active trace deactivated (activated.slot_eq ▸ trace')
    | some m =>
      rw [deactivated.vacates trace' backed]
      cases activated <;> simp_all

end Secured

namespace RolledBack

variable {s s' : Startup} {t : Transcript}

theorem incomplete_spares {failed : Option Failure} {topic : Topic} (other : topic ≠ .log) :
    Spares topic (incomplete failed) := by
  cases failed <;> simp [incomplete, Request.topic, other.symm]

theorem incomplete_unwarned {failed : Option Failure} {name : String} :
    Unwarned (incomplete failed) name := by
  cases failed <;> simp [incomplete, Unwarned]

/-- The manager is taken back and the realms are stopped, after questions about neither. -/
theorem parts (back : RolledBack s t s') (well : WellNamed s.catalogue.entries) :
    ∃ front withdrawal stops, t = front ++ (withdrawal ++ stops) ∧
      Spares .realms front ∧ Spares .manager front ∧
      Deactivated s.activation withdrawal s'.activation ∧ Stopping s.lifecycle stops ∧
      s'.lifecycle = .idle := by
  cases back with
  | @done destroys failed entries withdrawal a stops destroyed deactivated stopping =>
    have aside {topic : Topic} (unsought : topic ≠ .search) (unlogged : topic ≠ .log) :
        Spares topic (destroys ++ incomplete failed) :=
      spares_append.mpr ⟨destroyed.spares well unsought unlogged, incomplete_spares unlogged⟩
    exact ⟨_, withdrawal, stops, (List.append_assoc ..).symm, aside (by decide) (by decide),
      aside (by decide) (by decide), deactivated, stopping, rfl⟩

theorem realms (back : RolledBack s t s') (well : WellNamed s.catalogue.entries) :
    startedIn t = [] ∧ stoppedIn t = s.lifecycle.started.reverse ∧
      runningAfter s.lifecycle.started t = [] ∧ s'.lifecycle = .idle := by
  obtain ⟨front, withdrawal, stops, rfl, spares, -, deactivated, stopping, idle⟩ := back.parts well
  have quiet : Spares .realms (front ++ withdrawal) :=
    spares_append.mpr ⟨spares, deactivated.spares (by decide) (by decide)⟩
  obtain ⟨unstarted, unstopped, same⟩ := realms_spared s.lifecycle.started quiet
  obtain ⟨none, after⟩ := stopping.running
  rw [← List.append_assoc]
  refine ⟨?_, ?_, ?_, idle⟩
  · rw [startedIn_append, unstarted, none, List.append_nil]
  · rw [stoppedIn_append, unstopped, stopping.stopped, List.nil_append]
  · rw [runningAfter_append, same, after]

theorem losses (back : RolledBack s t s') (well : WellNamed s.catalogue.entries) :
    Evolved (Loss t) s.catalogue.entries s'.catalogue.entries := by
  cases back with
  | @done destroys failed entries withdrawal a stops destroyed deactivated stopping =>
    refine (destroyed.losses well).mono fun e _ x loss => loss.extend ?_ ?_
    · refine incomplete_unwarned.append (.append ?_ (stopping.spares (by decide)).unwarned)
      cases deactivated <;> simp [Unwarned]
    · refine Spares.unsought (spares_append.mpr ⟨incomplete_spares (by decide), ?_⟩)
      exact spares_append.mpr
        ⟨deactivated.spares (by decide) (by decide), stopping.spares (by decide)⟩

theorem onlySlot (back : RolledBack s t s') (well : WellNamed s.catalogue.entries) :
    OnlySlot s.activation.slot t := by
  obtain ⟨front, withdrawal, stops, rfl, -, spares, deactivated, stopping, -⟩ := back.parts well
  exact spares.onlySlot.append (deactivated.onlySlot.append (stopping.spares (by decide)).onlySlot)

/-- What is destroyed is bound and to go with the process. -/
theorem destroys (back : RolledBack s t s') (well : WellNamed s.catalogue.entries)
    {e : Event} (member : e ∈ t) {service : Ref .service} {handle : Handle}
    (asked : e.question = .destroyIndex service handle) :
    ∃ entry ∈ s.catalogue.entries, entry.2.definition.destroyOnShutdown = true ∧
      entry.2.binding = some ⟨handle, service⟩ := by
  cases back with
  | @done destroys failed entries withdrawal a stops destroyed deactivated stopping =>
    have aside : Spares .search (incomplete failed ++ (withdrawal ++ stops)) :=
      spares_append.mpr ⟨incomplete_spares (by decide), spares_append.mpr
        ⟨deactivated.spares (by decide) (by decide), stopping.spares (by decide)⟩⟩
    rcases List.mem_append.mp member with inside | outside
    · obtain ⟨entry, listed, flagged, b, bound, known⟩ := destroyed.asked well e inside
      rw [asked] at known
      obtain ⟨rfl, rfl⟩ : service = b.service ∧ handle = b.handle := by simpa using known
      exact ⟨entry, listed, flagged, bound⟩
    · exact absurd (congrArg Request.topic asked) (aside e outside)

end RolledBack

namespace Ran

variable {s s' : Startup} {t : Transcript} {result : Except Failure Startup.Report}

theorem slot_eq (ran : Ran s t result s') : s'.activation.slot = s.activation.slot := by
  cases ran with
  | unsecured secured _ => exact secured.slot_eq
  | succeeded secured _ => exact secured.slot_eq
  | rolledBack secured _ back =>
    cases back with
    | done _ deactivated _ => exact deactivated.slot_eq.trans secured.slot_eq

theorem ended_eq (ran : Ran s t result s') : s'.ended = s.ended := by
  cases ran with
  | unsecured secured _ => rw [secured.frame]
  | succeeded secured _ => rw [secured.frame]
  | rolledBack secured _ back =>
    cases back with
    | done => rw [secured.frame]

theorem ensured_well {s₁ : Startup} {searches : Transcript} {entries : List Entry}
    {manager : Option Manager} {ensured : Except Failure (List Handle)}
    (secured : Secured s t (.ok manager) s₁)
    (each : EnsuredEach s₁.catalogue.entries searches ensured entries)
    (well : WellNamed s.catalogue.entries) : WellNamed entries :=
  (secured.catalogue_eq ▸ well).rebound (each.gains.mono fun _ _ _ gain => gain.rebound)

/-- A run that succeeds leaves all it has started. A run that fails stops whatever is there, last
first, and leaves none. -/
theorem realms (ran : Ran s t result s') (well : WellNamed s.catalogue.entries) :
    ∃ l : Lifecycle, l.started = s.lifecycle.started ++ startedIn t ∧
      (s.lifecycle.Distinct → l.Distinct) ∧
      runningAfter s.lifecycle.started t = s'.lifecycle.started ∧
      (∀ report, result = .ok report → s'.lifecycle = l) ∧
      ∀ failure, result = .error failure →
        s'.lifecycle = .idle ∧ stoppedIn t = l.started.reverse := by
  cases ran with
  | @unsecured t error s₁ stops present secured stopping =>
    obtain ⟨unstopped, remembered, running⟩ := secured.running
    obtain ⟨unstarted, after⟩ := stopping.running
    refine ⟨s₁.lifecycle, ?_, secured.distinct, ?_, by simp, fun _ _ => ⟨rfl, ?_⟩⟩
    · simp [unstarted, remembered]
    · simp [running, after, Lifecycle.idle]
    · simp [unstopped, stopping.stopped]
  | @rolledBack t manager s₁ searches entries undoing s₂ present failure secured ensured back =>
    have well₁ := ensured_well secured ensured well
    obtain ⟨unstopped, remembered, running⟩ := secured.running
    obtain ⟨unstarted, stopped, after, idle⟩ := back.realms well₁
    obtain ⟨none, nothing, quiet⟩ :=
      realms_spared s₁.lifecycle.started (ensured.spares (by decide))
    refine ⟨s₁.lifecycle, ?_, secured.distinct, ?_, by simp, fun _ _ => ⟨idle, ?_⟩⟩
    · simp [none, unstarted, remembered]
    · simp [running, quiet, after, idle, Lifecycle.idle]
    · simp [unstopped, nothing, stopped]
  | @succeeded t manager s₁ searches handles entries present secured ensured =>
    obtain ⟨-, remembered, running⟩ := secured.running
    obtain ⟨none, -, quiet⟩ :=
      realms_spared s₁.lifecycle.started (ensured.spares (by decide))
    refine ⟨s₁.lifecycle, ?_, secured.distinct, ?_, fun _ _ => rfl, by simp⟩
    · simp [none, remembered]
    · simp [running, quiet]

theorem onlySlot (ran : Ran s t result s') (well : WellNamed s.catalogue.entries) :
    OnlySlot s.activation.slot t := by
  have probed {t : Transcript} {present : Bool} (only : OnlySlot s.activation.slot t) :
      OnlySlot s.activation.slot (⟨.probe s.gate.probe s.gate.capability, present⟩ :: t) :=
    List.forall_mem_cons.mpr ⟨by simp [Request.slot?], only⟩
  cases ran with
  | unsecured secured stopping =>
    exact probed (secured.onlySlot.append (stopping.spares (by decide)).onlySlot)
  | rolledBack secured each back =>
    have undoing := back.onlySlot (ensured_well secured each well)
    exact probed (secured.onlySlot.append
      ((each.spares (by decide)).onlySlot.append (secured.slot_eq ▸ undoing)))
  | succeeded secured each =>
    exact probed (secured.onlySlot.append (each.spares (by decide)).onlySlot)

variable {first last : Option Manager}

/-- What a failed run does to the slot and the activation. -/
theorem failed_slot {failure : Failure} (ran : Ran s t (.error failure) s')
    (well : WellNamed s.catalogue.entries) (trace : SlotTrace s.activation.slot first t last)
    (before : s.activation.Backed first) :
    (failure.InActivation → s'.activation.active = s.activation.active ∧ last = first) ∧
      (¬ failure.InActivation → s'.activation.active = none ∧
        last = if s.activation.active.isSome then none else first) := by
  cases ran with
  | unsecured secured stopping =>
    rw [SlotTrace.at_other rfl, SlotTrace.append_spared (stopping.spares (by decide))] at trace
    obtain ⟨same, kept⟩ := secured.failed trace
    exact ⟨fun _ => ⟨kept, same⟩, fun other => absurd trivial other⟩
  | rolledBack secured each back =>
    refine ⟨fun inside => absurd inside (each.not_inActivation rfl), fun _ => ?_⟩
    obtain ⟨front, withdrawal, stops, rfl, -, quiet, deactivated, stopping, -⟩ :=
      back.parts (ensured_well secured each well)
    rw [SlotTrace.at_other rfl, SlotTrace.append] at trace
    obtain ⟨middle, securing, undoing⟩ := trace
    rw [SlotTrace.spared_append (each.spares (by decide)), SlotTrace.spared_append quiet,
      SlotTrace.append_spared (stopping.spares (by decide))] at undoing
    exact ⟨deactivated.inactive, secured.undone securing deactivated undoing before⟩

theorem backed (ran : Ran s t result s') (well : WellNamed s.catalogue.entries)
    (trace : SlotTrace s.activation.slot first t last) (before : s.activation.Backed first) :
    s'.activation.Backed last := by
  cases result with
  | error failure =>
    obtain ⟨kept, undone⟩ := ran.failed_slot well trace before
    by_cases inside : failure.InActivation
    · obtain ⟨same, rfl⟩ := kept inside
      exact before.of_active_eq same
    · exact .of_inactive (undone inside).1
  | ok report =>
    cases ran with
    | succeeded secured each =>
      rw [SlotTrace.at_other rfl, SlotTrace.append_spared (each.spares (by decide))] at trace
      exact secured.backed trace before

/-- What a run that fails does to the entries. -/
theorem failed_entries {failure : Failure} (ran : Ran s t (.error failure) s')
    (well : WellNamed s.catalogue.entries) :
    (failure.InActivation → s'.catalogue = s.catalogue ∧ Spares .search t) ∧
      (¬ failure.InActivation → ∃ entries, Evolved (Gain t) s.catalogue.entries entries ∧
        Evolved (Loss t) entries s'.catalogue.entries) := by
  cases ran with
  | unsecured secured stopping =>
    refine ⟨fun _ => ⟨secured.catalogue_eq, ?_⟩, fun other => absurd trivial other⟩
    exact spares_cons.mpr ⟨by simp [Request.topic],
      spares_append.mpr ⟨secured.spares_search, stopping.spares (by decide)⟩⟩
  | @rolledBack t manager s₁ searches entries undoing s₂ present failure secured each back =>
    refine ⟨fun inside => absurd inside (each.not_inActivation rfl), fun _ => ⟨entries, ?_, ?_⟩⟩
    · rw [← secured.catalogue_eq]
      exact each.gains.mono fun _ _ _ gain => gain.mono fun e found => by simp [found]
    · rw [← List.append_assoc t, ← List.cons_append]
      refine (back.losses (ensured_well secured each well)).mono fun e _ x loss => loss.after ?_
      refine List.forall_mem_cons.mpr ⟨by simp, (secured.unwarned e.1).append ?_⟩
      exact (each.spares (by decide)).unwarned

theorem continued (ran : Ran s t result s') (well : WellNamed s.catalogue.entries) :
    Continued t s.catalogue.entries s'.catalogue.entries := by
  apply Evolved.continued
  cases result with
  | error failure =>
    obtain ⟨kept, undone⟩ := ran.failed_entries well
    by_cases inside : failure.InActivation
    · rw [(kept inside).1]
      exact List.forall₂_same.mpr fun e _ => ⟨rfl, .refl t e.1 e.2⟩
    · obtain ⟨entries, gains, losses⟩ := undone inside
      exact gains.trans losses fun _ _ _ _ gain loss =>
        gain.rebound.trans (loss.rebound t) (fun _ => id) fun _ => id
  | ok report =>
    cases ran with
    | succeeded secured each =>
      rw [← secured.catalogue_eq]
      refine each.gains.mono fun _ _ _ gain => (gain.mono fun e found => ?_).rebound
      simp [found]

/-- What a run destroys is to go with the process, and was bound before or found in the run. -/
theorem destroys (ran : Ran s t result s') (well : WellNamed s.catalogue.entries)
    {e : Event} (member : e ∈ t) {service : Ref .service} {handle : Handle}
    (asked : e.question = .destroyIndex service handle) :
    ∃ name x, (name, x) ∈ s.catalogue.entries ∧ x.definition.destroyOnShutdown = true ∧
      (x.binding = some ⟨handle, service⟩ ∨
        ∃ path, ⟨.findIndex service name path, some handle⟩ ∈ t) := by
  have probing {probe : Ref .probe} {capability : String} {present : Bool} :
      e ≠ ⟨.probe probe capability, present⟩ := by
    rintro rfl
    contradiction
  have aside {front : Transcript} (spares : Spares .search front) : e ∉ front := fun inside =>
    spares e inside (congrArg Request.topic asked)
  have seeking {entries entries' : List Entry} {searches : Transcript}
      {ensured : Except Failure (List Handle)}
      (each : EnsuredEach entries searches ensured entries') : e ∉ searches := by
    intro inside
    obtain ⟨_, _, _, sought⟩ := each.seeks e inside
    rw [asked] at sought
    exact sought
  cases ran with
  | unsecured secured stopping =>
    simp [probing, aside secured.spares_search, aside (stopping.spares (by decide))] at member
  | succeeded secured each =>
    simp [probing, aside secured.spares_search, seeking each] at member
  | @rolledBack t manager s₁ searches entries undoing s₂ present failure secured each back =>
    have undone : e ∈ undoing := by
      simpa [probing, aside secured.spares_search, seeking each] using member
    obtain ⟨⟨name, x'⟩, listed, flagged, bound⟩ :=
      back.destroys (ensured_well secured each well) undone asked
    obtain ⟨x, before, gain⟩ := each.gains.backward listed
    refine ⟨name, x, secured.catalogue_eq ▸ before, gain.rebound.definition ▸ flagged, ?_⟩
    refine (gain.rebound.binding _ bound).imp id fun ⟨path, found⟩ => ⟨path, ?_⟩
    simp [found]

end Ran
end GatedStartup
