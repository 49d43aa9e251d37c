import GatedStartup.Proofs.History

/-! Rollback of a run that fails, as long as no run has succeeded: the slot is as it was found,
no realm runs, and of the indexes that are to go with the process only those stay that could not
be destroyed. What went wrong is reported whatever becomes of the rollback. -/
namespace GatedStartup

open Lookup Index

namespace Startup

/-- A run that takes nothing back. -/
def pass (k : Collaborators) (s : Startup) : Work (Except Failure Report × Startup) := do
  let gates ← s.gates
  match ← s.secure gates with
  | (.error error, s) => pure (.error (.activation error), s)
  | (.ok manager, s) =>
    let properties := s.assembler.assemble s.attributes gates.realmsConfigured
    let (ensured, catalogue) ← s.catalogue.ensureAll k
    pure (ensured.map (⟨gates, properties, manager, ·⟩), { s with catalogue := catalogue })

variable {W : Type} (h : Surroundings W) (k : Collaborators) (s : Startup) (w : W)

/-- What a run returns is settled before anything is taken back. -/
theorem run_result : ((s.run k).run h w).1.1 = ((s.pass k).run h w).1.1 := by
  simp only [run, pass, Program.run_bind]
  generalize (s.gates.run h w) = looked
  generalize ((s.secure looked.1).run h looked.2) = secured
  obtain ⟨⟨activated, s₁⟩, w₁⟩ := secured
  cases activated with
  | error error => simp only [Program.run_bind, Program.run_pure]
  | ok manager =>
    simp only [Program.run_bind]
    generalize ((s₁.catalogue.ensureAll k).run h w₁) = ensuring
    obtain ⟨⟨ensured, c⟩, w₂⟩ := ensuring
    cases ensured <;> simp only [Program.run_bind, Program.run_pure, Except.map]

/-- A run asks first what it would ask if it took nothing back. -/
theorem pass_events : (s.pass k).events h w <+: (s.run k).events h w := by
  simp only [run, pass, Program.events_bind]
  generalize (s.gates.run h w) = looked
  refine (List.prefix_append_right_inj _).mpr ?_
  generalize (s.secure looked.1).events h looked.2 = securing
  generalize ((s.secure looked.1).run h looked.2) = secured
  obtain ⟨⟨activated, s₁⟩, w₁⟩ := secured
  refine (List.prefix_append_right_inj _).mpr ?_
  cases activated with
  | error error => simp
  | ok manager =>
    simp only [Program.events_bind]
    generalize (s₁.catalogue.ensureAll k).events h w₁ = searching
    generalize ((s₁.catalogue.ensureAll k).run h w₁) = ensuring
    obtain ⟨⟨ensured, c⟩, w₂⟩ := ensuring
    refine (List.prefix_append_right_inj _).mpr ?_
    cases ensured <;> simp

end Startup

/-- A run that succeeded, or a shutdown. -/
def Call.Outcome.settles : Call.Outcome → Bool
  | .ran (.ok _) | .ended _ => true
  | _ => false

/-- No run has succeeded and nothing was shut down. -/
def Scene.Unsuccessful (scene : Scene W) : Prop := ∀ o ∈ scene.outcomes, o.settles = false

instance (scene : Scene W) : Decidable scene.Unsuccessful :=
  inferInstanceAs (Decidable (∀ o ∈ scene.outcomes, o.settles = false))

/-- Nothing is established. An index that is to go with the process is bound only because
destroying it was refused. -/
structure Unestablished (scene : Scene W) : Prop where
  inactive : scene.startup.activation.active = none
  idle : scene.startup.lifecycle.started = []
  refused : ∀ name x b, (name, x) ∈ scene.startup.catalogue.entries →
    x.definition.destroyOnShutdown = true → x.binding = some b → RefusedSince scene.past name b

/-- What is left of a run that fails: nothing but the indexes that could not be destroyed. -/
structure TakenBack (h : Surroundings W) (k : Collaborators) (held : W → Option Manager)
    (scene : Scene W) (failure : Failure) : Prop where
  slot : held (scene.after h k .run).world = held scene.world
  inactive : (scene.after h k .run).startup.activation.active = none
  /-- What was started is stopped, once each and last first. -/
  stopped : stoppedIn (scene.asked h k .run) = (startedIn (scene.asked h k .run)).reverse
  once : ((startedIn (scene.asked h k .run)).map (·.number)).Nodup
  idle : (scene.after h k .run).startup.lifecycle = .idle
  still : runningAfter [] (scene.after h k .run).past = []
  refused : ∀ name x b, (name, x) ∈ (scene.after h k .run).startup.catalogue.entries →
    x.definition.destroyOnShutdown = true → x.binding = some b →
    RefusedSince (scene.after h k .run).past name b
  destroyed : ∀ e ∈ (scene.after h k .run).past, ∀ service handle,
    e.question = .destroyIndex service handle →
    ∃ name x path, (name, x) ∈ (scene.after h k .run).startup.catalogue.entries ∧
      x.definition.destroyOnShutdown = true ∧
      ⟨.findIndex service name path, some handle⟩ ∈ (scene.after h k .run).past
  /-- The failure is that of the run itself. -/
  cause : ((scene.startup.pass k).run h scene.world).1.1 = .error failure
  first : (scene.startup.pass k).events h scene.world <+: scene.asked h k .run

section

variable {h : Surroundings W} {k : Collaborators} {held : W → Option Manager} {scene : Scene W}
  {s' : Startup} {t : Transcript} {failure : Failure}

/-- The entries that stay bound after a run that fails. -/
theorem Ran.refused (ran : Ran scene.startup t (.error failure) s')
    (well : WellNamed scene.startup.catalogue.entries) (before : Unestablished scene)
    {name : String} {x : Managed} {b : Binding} (listed : (name, x) ∈ s'.catalogue.entries)
    (flagged : x.definition.destroyOnShutdown = true) (bound : x.binding = some b) :
    RefusedSince (scene.past ++ t) name b := by
  obtain ⟨kept, undone⟩ := ran.failed_entries well
  by_cases inside : failure.InActivation
  · obtain ⟨same, quiet⟩ := kept inside
    exact (before.refused name x b (same ▸ listed) flagged bound).extend quiet.unsought
  · obtain ⟨entries, -, losses⟩ := undone inside
    obtain ⟨y, -, loss⟩ := losses.backward listed
    exact (loss.refused_of_bound flagged bound).after

theorem Unestablished.called {c : Call} {outcome : Call.Outcome} {first last : Option Manager}
    {w : W} {outcomes : List Call.Outcome} (before : Unestablished scene)
    (well : WellNamed scene.startup.catalogue.entries)
    (called : Called scene.startup c t outcome s')
    (trace : SlotTrace scene.startup.activation.slot first t last)
    (unsettled : outcome.settles = false) :
    Unestablished (⟨s', w, scene.past ++ t, outcomes⟩ : Scene W) := by
  cases called with
  | registered registered =>
    refine ⟨before.inactive, before.idle, fun name x b listed flagged bound => ?_⟩
    refine RefusedSince.extend ?_ (registered.spares (by decide)).unsought
    rcases registered.entries with same | ⟨added, extended, unbound⟩
    · exact before.refused name x b (same ▸ listed) flagged bound
    · rcases List.mem_append.mp (extended ▸ listed) with old | new
      · exact before.refused name x b old flagged bound
      · obtain rfl := List.mem_singleton.mp new
        exact absurd (unbound.symm.trans bound) (by simp)
  | realmAdded =>
    exact ⟨before.inactive, before.idle, by simpa [Startup.addRealm] using before.refused⟩
  | @ran _ _ result ran =>
    cases result with
    | ok report => simp [Call.Outcome.settles] at unsettled
    | error failure =>
      obtain ⟨l, -, -, -, -, stopped⟩ := ran.realms well
      obtain ⟨kept, undone⟩ := ran.failed_slot well trace (.of_inactive before.inactive)
      refine ⟨?_, by simp [(stopped failure rfl).1, Lifecycle.idle],
        fun _ _ _ listed flagged bound => ran.refused well before listed flagged bound⟩
      by_cases inside : failure.InActivation
      · exact (kept inside).1 ▸ before.inactive
      · exact (undone inside).1
  | again | ended => simp [Call.Outcome.settles] at unsettled

theorem Reached.unestablished (reached : Reached h scene)
    (keeps : KeepsSlot h scene.startup.activation.slot held)
    (unsuccessful : scene.Unsuccessful) : Unestablished scene := by
  induction reached with
  | start s w untouched =>
    refine ⟨untouched.inactive, by simp [untouched.idle, Lifecycle.idle], ?_⟩
    simp [untouched.unregistered, Catalogue.empty]
  | @call scene k c reached ih =>
    have sound := reached.sound
    have called := sound.called h k c
    rw [called.slot_eq] at keeps
    have earlier : scene.Unsuccessful := fun o member =>
      unsuccessful o (List.mem_append_left _ member)
    have unsettled : (scene.outcome h k c).settles = false :=
      unsuccessful _ (List.mem_append_right _ List.mem_cons_self)
    exact (ih keeps earlier).called sound.well called (sound.slotTrace keeps k c) unsettled

/-- A run that fails before any has succeeded takes back what it did, and says what went wrong. -/
theorem run_takes_back (reached : Reached h scene)
    (keeps : KeepsSlot h scene.startup.activation.slot held) (unsuccessful : scene.Unsuccessful)
    (failed : scene.outcome h k .run = .ran (.error failure)) :
    TakenBack h k held scene failure := by
  have sound := reached.sound
  have before := reached.unestablished keeps unsuccessful
  have trace := sound.slotTrace keeps k .run
  have called := sound.called h k .run
  have later := sound.after h k .run
  have established : Unestablished (scene.after h k .run) :=
    before.called sound.well called trace (by rw [failed]; rfl)
  rw [failed] at called
  have ran := called.ran_of
  obtain ⟨l, remembered, distinct, -, -, stopped⟩ := ran.realms sound.well
  obtain ⟨idle, stops⟩ := stopped failure rfl
  rw [before.idle, List.nil_append] at remembered
  obtain ⟨kept, undone⟩ :=
    ran.failed_slot sound.well trace (.of_inactive before.inactive)
  refine ⟨?_, established.inactive, remembered ▸ stops, remembered ▸ distinct sound.distinct, idle,
    ?_, established.refused, later.destroyed, ?_, ?_⟩
  · by_cases inside : failure.InActivation
    · exact (kept inside).2
    · simpa [before.inactive] using (undone inside).2
  · rw [← later.running, established.idle]
  · rw [← Startup.run_result]
    rw [scene.outcome_run] at failed
    exact Call.Outcome.ran.inj failed
  · rw [scene.asked_run]
    exact Startup.pass_events h k scene.startup scene.world

end

namespace Trial

open Rehearsal

/-- The scene once an index without a region is registered too. -/
def doomed : Scene Stage := next (registered [staff, guests] "parcels") (.register "shop" astray)

/-- Both realms are started and stopped, and the index that cannot be destroyed stays. -/
theorem doomed_taken_back :
    startedIn (doomed.asked setting.surroundings collaborators .run) = [staff, guests] ∧
      bound? (next doomed .run) = some ⟨"parcels", "/orders", .names ["id"]⟩ ∧
      TakenBack setting.surroundings collaborators Stage.slot doomed
        (.configuration .missingRegion) :=
  ⟨rfl, rfl, run_takes_back (.call _ _ (reached_registered _ _)) (keepsSlot setting _)
    (by decide) rfl⟩

end Trial
end GatedStartup
