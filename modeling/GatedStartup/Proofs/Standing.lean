import GatedStartup.Proofs.History

/-! What stands of earlier runs once a later one fails. A rollback does not tell what its own run
has established from what earlier ones have: it takes back both. -/
namespace GatedStartup

open Lookup Index

/-- An index goes on under its name and definition, and is bound as it was. -/
def StillBound (entries : List Entry) (name : String) (x : Managed) (b : Binding) : Prop :=
  ∃ x', (name, x') ∈ entries ∧ x'.definition = x.definition ∧ x'.binding = some b

/-- The manager, the realms and the bound indexes that were there at first are there still. -/
structure Stands (held : W → Option Manager) (first scene : Scene W) : Prop where
  manager : ∀ m, first.startup.activation.active = some m → held scene.world = some m
  realms : ∀ realm ∈ runningAfter [] first.past, realm ∈ runningAfter [] scene.past
  bound : ∀ name x b, (name, x) ∈ first.startup.catalogue.entries → x.binding = some b →
    StillBound scene.startup.catalogue.entries name x b

/-- Calls lead from one scene to a later one. None of them is a shutdown, and runs that fail leave
all that was there at first. -/
inductive Onward (h : Surroundings W) (held : W → Option Manager) (first : Scene W) :
    Scene W → Prop where
  | here : Onward h held first first
  | call (k : Collaborators) (c : Call) : Onward h held first scene → c ≠ .shutdown →
      (∀ failure, scene.outcome h k c = .ran (.error failure) →
        Stands held first (scene.after h k c)) →
      Onward h held first (scene.after h k c)

section

variable {s s' : Startup} {c : Call} {t : Transcript} {outcome : Call.Outcome}

/-- Calls that do not fail only add to what there is. -/
theorem Called.adds (called : Called s c t outcome s') (open_ : c ≠ .shutdown)
    (unfailed : ∀ failure, outcome ≠ .ran (.error failure))
    (well : WellNamed s.catalogue.entries) :
    (∀ m, s.activation.active = some m → s'.activation.active = some m) ∧
      (∀ realm ∈ s.lifecycle.started, realm ∈ s'.lifecycle.started) ∧
      ∀ name x b, (name, x) ∈ s.catalogue.entries → x.binding = some b →
        (name, x) ∈ s'.catalogue.entries := by
  cases called with
  | registered registered =>
    refine ⟨fun _ => id, fun _ => id, fun name x b listed _ => ?_⟩
    rcases registered.entries with same | ⟨added, extended, _⟩
    · exact same ▸ listed
    · exact extended ▸ List.mem_append_left _ listed
  | realmAdded => exact ⟨fun _ => id, fun _ => id, fun _ _ _ listed _ => listed⟩
  | again | ended => exact absurd rfl open_
  | @ran _ _ result ran =>
    cases result with
    | error failure => exact absurd rfl (unfailed failure)
    | ok report =>
      obtain ⟨l, remembered, -, -, kept, -⟩ := ran.realms well
      refine ⟨fun m active => ?_, fun realm running => ?_, fun name x b listed bound => ?_⟩
      · cases ran with
        | succeeded secured _ =>
          cases secured with
          | started _ activated => cases activated <;> simp_all
      · rw [kept report rfl, remembered]
        exact List.mem_append_left _ running
      · cases ran with
        | succeeded secured each =>
          obtain ⟨x', inside, gain⟩ := each.gains.forward (secured.catalogue_eq ▸ listed)
          exact gain.of_bound bound ▸ inside

end

variable {h : Surroundings W} {k : Collaborators} {held : W → Option Manager}
  {first scene : Scene W} {failure : Failure}

/-- What a run that fails leaves of an earlier manager. -/
theorem Ran.keeps_manager_iff {s s' : Startup} {t : Transcript} {before after : Option Manager}
    {m : Manager} (ran : Ran s t (.error failure) s') (well : WellNamed s.catalogue.entries)
    (trace : SlotTrace s.activation.slot before t after) (backed : s.activation.Backed before)
    (active : s.activation.active = some m) :
    (failure.InActivation ↔ after = some m) ∧
      (failure.InActivation → s'.activation.active = some m) := by
  obtain ⟨kept, undone⟩ := ran.failed_slot well trace backed
  refine ⟨⟨fun inside => (kept inside).2.trans (backed m active), fun still => ?_⟩,
    fun inside => (kept inside).1 ▸ active⟩
  by_contra outside
  simp [(undone outside).2, active] at still

namespace Onward

theorem reached (onward : Onward h held first scene) (reached : Reached h first) :
    Reached h scene := by
  induction onward with
  | here => exact reached
  | call k c _ _ _ ih => exact ih.call k c

theorem slot_eq (onward : Onward h held first scene) (reached : Reached h first) :
    scene.startup.activation.slot = first.startup.activation.slot := by
  induction onward with
  | here => rfl
  | @call scene k c onward _ _ ih =>
    exact ((onward.reached reached).sound.called h k c).slot_eq.trans ih

theorem active (onward : Onward h held first scene) (reached : Reached h first)
    (keeps : KeepsSlot h first.startup.activation.slot held) {m : Manager}
    (active : first.startup.activation.active = some m) :
    scene.startup.activation.active = some m := by
  induction onward with
  | here => exact active
  | @call scene k c onward open_ standing ih =>
    have here := onward.reached reached
    have well := here.sound.well
    rw [← onward.slot_eq reached] at keeps
    have trace := here.sound.slotTrace keeps k c
    have called := here.sound.called h k c
    by_cases failing : ∃ failure, scene.outcome h k c = .ran (.error failure)
    · obtain ⟨failure, failed⟩ := failing
      have still := (standing failure failed).manager m active
      rw [failed] at called
      obtain ⟨inside, kept⟩ := called.ran_of.keeps_manager_iff well trace (here.backed keeps) ih
      exact kept (inside.mpr still)
    · exact (called.adds open_ (fun failure failed => failing ⟨failure, failed⟩) well).1 m ih

/-- All that was there at first is there still. -/
theorem stands (onward : Onward h held first scene) (reached : Reached h first)
    (keeps : KeepsSlot h first.startup.activation.slot held) : Stands held first scene := by
  induction onward with
  | here =>
    exact ⟨fun m active => reached.backed keeps m active, fun _ => id,
      fun _ x _ listed bound => ⟨x, listed, rfl, bound⟩⟩
  | @call scene k c onward open_ standing ih =>
    by_cases failing : ∃ failure, scene.outcome h k c = .ran (.error failure)
    · obtain ⟨failure, failed⟩ := failing
      exact standing failure failed
    have sound := (onward.reached reached).sound
    have later := sound.after h k c
    obtain ⟨-, realms, bound⟩ := (sound.called h k c).adds open_
      (fun failure failed => failing ⟨failure, failed⟩) sound.well
    refine ⟨fun m active => ?_, fun realm running => ?_, fun name x b listed bound' => ?_⟩
    · have next : Onward h held first (scene.after h k c) := onward.call k c open_ standing
      rw [← next.slot_eq reached] at keeps
      have still := next.active reached (next.slot_eq reached ▸ keeps) active
      exact (next.reached reached).backed keeps m still
    · rw [← later.running]
      exact realms realm (sound.running ▸ ih.realms realm running)
    · obtain ⟨x', inside, same, still⟩ := ih.bound name x b listed bound'
      exact ⟨x', bound name x' b inside still, same, still⟩

end Onward

/-- An index stays bound in a rollback just when it is not to be destroyed, or destroying it is
refused. -/
theorem Ran.stillBound_iff {s s' : Startup} {t : Transcript} (ran : Ran s t (.error failure) s')
    (well : WellNamed s.catalogue.entries) (outside : ¬ failure.InActivation)
    {name : String} {x : Managed} {b : Binding} (before : StillBound s.catalogue.entries name x b) :
    StillBound s'.catalogue.entries name x b ↔
      (x.definition.destroyOnShutdown = true → RefusedSince t name b) := by
  obtain ⟨y, listed, same, bound⟩ := before
  obtain ⟨entries, gains, losses⟩ := (ran.failed_entries well).2 outside
  obtain ⟨y', inside, gain⟩ := gains.forward listed
  obtain rfl := gain.of_bound bound
  obtain ⟨z, after, loss⟩ := losses.forward inside
  rw [← same, ← loss.keeps_iff bound]
  constructor
  · rintro ⟨x', listed', -, bound'⟩
    obtain rfl := ((ran.continued well).well well).unique listed' after
    exact bound'
  · exact fun bound' => ⟨z, after, (loss.rebound t).definition.trans same, bound'⟩

/-- A run that fails leaves what was there at first just when no realm was running then, and either
it fails in activation, or there was no manager and every index that is to go with the process could
not be destroyed. -/
theorem stands_after_failure_iff (reached : Reached h first)
    (keeps : KeepsSlot h first.startup.activation.slot held) (onward : Onward h held first scene)
    (failed : scene.outcome h k .run = .ran (.error failure)) :
    Stands held first (scene.after h k .run) ↔
      runningAfter [] first.past = [] ∧ (failure.InActivation ∨
        first.startup.activation.active = none ∧
          ∀ name x b, (name, x) ∈ first.startup.catalogue.entries →
            x.definition.destroyOnShutdown = true → x.binding = some b →
            RefusedSince (scene.asked h k .run) name b) := by
  have stands := onward.stands reached keeps
  have here := onward.reached reached
  have well := here.sound.well
  rw [← onward.slot_eq reached] at keeps
  have trace := here.sound.slotTrace keeps k .run
  have called := here.sound.called h k .run
  have later := here.sound.after h k .run
  rw [failed] at called
  have ran := called.ran_of
  obtain ⟨l, -, -, -, -, stopped⟩ := ran.realms well
  have still : runningAfter [] (scene.after h k .run).past = [] := by
    rw [← later.running, (stopped failure rfl).1]; rfl
  have active {m : Manager} (was : first.startup.activation.active = some m) :=
    (ran.keeps_manager_iff well trace (here.backed keeps)
      (onward.active reached (onward.slot_eq reached ▸ keeps) was)).1
  constructor
  · intro standing
    refine ⟨List.eq_nil_iff_forall_not_mem.mpr fun realm running => ?_, ?_⟩
    · simpa [still] using standing.realms realm running
    by_cases inside : failure.InActivation
    · exact .inl inside
    refine .inr ⟨Option.eq_none_iff_forall_ne_some.mpr fun m was => ?_, ?_⟩
    · exact inside ((active was).mpr (standing.manager m was))
    · exact fun name x b listed flagged bound => (ran.stillBound_iff well inside
        (stands.bound name x b listed bound)).mp (standing.bound name x b listed bound) flagged
  · rintro ⟨idle, cases_⟩
    refine ⟨fun m was => ?_, by simp [idle], fun name x b listed bound => ?_⟩
    · rcases cases_ with inside | ⟨inactive, -⟩
      · exact (active was).mp inside
      · simp [inactive] at was
    · have before := stands.bound name x b listed bound
      by_cases inside : failure.InActivation
      · exact ((ran.failed_entries well).1 inside).1 ▸ before
      · obtain ⟨-, refused⟩ := cases_.resolve_left inside
        exact (ran.stillBound_iff well inside before).mpr fun flagged =>
          refused name x b listed flagged bound

namespace Trial

open Rehearsal

/-- A realm is added that cannot start. The run fails in activation, and the index stays. -/
theorem settled_stands :
    bound? (settled []) = some ⟨"orders", "/orders", .names ["id"]⟩ ∧
      Stands Stage.slot (settled []) (next (next (settled []) (.addRealm nobody)) .run) := by
  have onward : Onward setting.surroundings Stage.slot (settled [])
      (next (settled []) (.addRealm nobody)) :=
    .call collaborators (.addRealm nobody) .here (by simp) fun _ => nofun
  have failed : (next (settled []) (.addRealm nobody)).outcome setting.surroundings collaborators
      .run = .ran (.error (.activation
        (.realmStart "nobody" "Realm nobody unavailable: no users configured"))) := rfl
  refine ⟨rfl, ?_⟩
  exact (stands_after_failure_iff (reached_settled []) (keepsSlot setting _) onward failed).mpr
    ⟨rfl, .inl trivial⟩

/-- A first run puts a manager into the slot, starts both realms and binds the index. An index
without a region is registered, the next run fails, and all of it is gone. -/
theorem settled_lost :
    let first := settled [staff, guests]
    let scene := next first (.register "shop" astray)
    scene.outcome setting.surroundings collaborators .run =
        .ran (.error (.configuration .missingRegion)) ∧
      first.world.slot = some ⟨⟨0, 0⟩, [staff, guests]⟩ ∧ (next scene .run).world.slot = none ∧
      runningAfter [] first.past = [staff, guests] ∧ runningAfter [] (next scene .run).past = [] ∧
      bound? first = some ⟨"orders", "/orders", .names ["id"]⟩ ∧ bound? (next scene .run) = none ∧
      ¬ Stands Stage.slot first (next scene .run) := by
  refine ⟨rfl, rfl, rfl, rfl, rfl, rfl, rfl, fun standing => ?_⟩
  have kept := standing.manager ⟨⟨0, 0⟩, [staff, guests]⟩ rfl
  have lost : (next (next (settled [staff, guests]) (.register "shop" astray)) .run).world.slot =
    none := rfl
  exact Option.some_ne_none _ (kept.symm.trans lost)

end Trial
end GatedStartup
