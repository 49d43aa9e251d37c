import GatedStartup.Proofs.History

/-! What a shutdown leaves. The first one stops every realm, and succeeds just when it leaves no
index bound that is to go with the process; until the next run that is how things are. Later ones
succeed and do nothing, whatever the first has left and whatever was established since. -/
namespace GatedStartup

open Lookup Index

/-- Of all the indexes that are to go with the process none is bound. -/
def Startup.Cleared (s : Startup) : Prop :=
  ∀ e ∈ s.catalogue.entries, e.2.definition.destroyOnShutdown = true → e.2.binding = none

/-- Calls lead from one scene to a later one, and none of them is a run. -/
inductive Unrun (h : Surroundings W) (first : Scene W) : Scene W → Prop where
  | here : Unrun h first first
  | call (k : Collaborators) (c : Call) : Unrun h first scene → c ≠ .run →
      Unrun h first (scene.after h k c)

/-- What a shutdown leaves, the first time and later. -/
structure Ended (h : Surroundings W) (k : Collaborators) (scene : Scene W) : Prop where
  first : (∀ result, .ended result ∉ scene.outcomes) →
    ∃ result, scene.outcome h k .shutdown = .ended result ∧
      ∀ last, Unrun h (scene.after h k .shutdown) last →
        runningAfter [] last.past = [] ∧ (result = .ok () ↔ last.startup.Cleared)
  later : (∃ result, .ended result ∈ scene.outcomes) →
    scene.outcome h k .shutdown = .ended (.ok ()) ∧ scene.asked h k .shutdown = [] ∧
      (scene.after h k .shutdown).startup = scene.startup ∧
      (scene.after h k .shutdown).world = scene.world

section

variable {h : Surroundings W} {k : Collaborators} {scene : Scene W}

/-- After a shutdown only a run changes what is running or bound. -/
theorem Called.rests {s s' : Startup} {c : Call} {t : Transcript} {outcome : Call.Outcome}
    (called : Called s c t outcome s') (unrun : c ≠ .run) (already : s.ended = true) :
    s'.ended = true ∧ s'.lifecycle = s.lifecycle ∧ (s'.Cleared ↔ s.Cleared) := by
  cases called with
  | registered registered =>
    refine ⟨already, rfl, ?_⟩
    rcases registered.entries with same | ⟨e, extended, unbound⟩
    · simp [Startup.Cleared, same]
    · simp [Startup.Cleared, extended, or_imp, forall_and, unbound]
  | realmAdded => exact ⟨already, rfl, Iff.rfl⟩
  | ran => exact absurd rfl unrun
  | again => exact ⟨already, rfl, Iff.rfl⟩
  | ended open_ => simp [open_] at already

theorem Unrun.rests {first : Scene W} (unrun : Unrun h first scene) (sound : Sound first)
    (already : first.startup.ended = true) :
    Sound scene ∧ scene.startup.ended = true ∧
      scene.startup.lifecycle = first.startup.lifecycle ∧
      (scene.startup.Cleared ↔ first.startup.Cleared) := by
  induction unrun with
  | here => exact ⟨sound, already, rfl, Iff.rfl⟩
  | call k c _ other ih =>
    obtain ⟨here, ended, lifecycle, cleared⟩ := ih
    obtain ⟨ended', lifecycle', cleared'⟩ := (here.called h k c).rests other ended
    exact ⟨here.after h k c, ended', lifecycle'.trans lifecycle, cleared'.trans cleared⟩

/-- The first shutdown stops every realm, and fails just when an index stays. -/
theorem Called.first_shutdown {s s' : Startup} {t : Transcript} {outcome : Call.Outcome}
    (called : Called s .shutdown t outcome s') (open_ : s.ended = false) :
    s'.ended = true ∧ s'.lifecycle.started = [] ∧
      ∃ result, outcome = .ended result ∧ (result = .ok () ↔ s'.Cleared) := by
  cases called with
  | again already => simp [open_] at already
  | @ended destroys entries warns stops failed _ destroyed _ _ =>
    refine ⟨rfl, rfl, _, rfl, ?_⟩
    rw [Startup.Cleared, ← destroyed.none_iff]
    cases failed <;> simp

theorem Startup.call_shutdown_ended {s : Startup} (already : s.ended = true) :
    s.call k .shutdown = pure (.ended (.ok ()), s) := by
  simp [call, shutdown, already]

theorem shutdown_leaves (reached : Reached h scene) : Ended h k scene := by
  have sound := reached.sound
  constructor
  · intro never
    have open_ : scene.startup.ended = false := by
      rw [← Bool.not_eq_true, sound.ended]
      rintro ⟨result, ended⟩
      exact never result ended
    obtain ⟨ended, idle, result, failed, cleared⟩ :=
      (sound.called h k .shutdown).first_shutdown open_
    refine ⟨result, failed, fun last unrun => ?_⟩
    obtain ⟨here, -, lifecycle, same⟩ := unrun.rests (sound.after h k .shutdown) ended
    exact ⟨by rw [← here.running, lifecycle, idle], cleared.trans same.symm⟩
  · intro ended
    have quiet := Startup.call_shutdown_ended (k := k) (sound.ended.mpr ended)
    simp only [Scene.outcome, Scene.asked, Scene.after, quiet]
    exact ⟨rfl, rfl, rfl, rfl⟩

end

namespace Trial

open Rehearsal

/-- The scene once the run has bound the index. -/
def bound (handedOut : String) : Scene Stage := next (registered [staff, guests] handedOut) .run

theorem reached_bound (handedOut : String) : Reached setting.surroundings (bound handedOut) :=
  .call _ _ (reached_registered _ _)

/-- Both realms run before the first shutdown. It leaves the index, which cannot be destroyed. -/
theorem bound_ended :
    runningAfter [] (bound "parcels").past = [staff, guests] ∧
      bound? (next (bound "parcels") .shutdown) = some ⟨"parcels", "/orders", .names ["id"]⟩ ∧
      Ended setting.surroundings collaborators (bound "parcels") :=
  ⟨rfl, rfl, shutdown_leaves (reached_bound _)⟩

/-- The index that could not be destroyed is still there when a second shutdown succeeds, and so
are the realms that a run has started in between. -/
theorem shutdown_ok_uncleared :
    let scene := next (next (bound "parcels") .shutdown) .run
    scene.outcome setting.surroundings collaborators .shutdown = .ended (.ok ()) ∧
      bound? (next scene .shutdown) = some ⟨"parcels", "/orders", .names ["id"]⟩ ∧
      runningAfter [] (next scene .shutdown).past = [staff, guests] ∧
      ¬ (next scene .shutdown).startup.Cleared := by
  refine ⟨rfl, rfl, rfl, fun cleared => ?_⟩
  have := cleared _ List.mem_cons_self rfl
  contradiction

end Trial
end GatedStartup
