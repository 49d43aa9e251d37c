import GatedStartup.Proofs.LiveRealms

/-! Running again. A run that succeeds leaves a settled startup: its realms run, its manager is
remembered, its indexes are bound. A settled startup looks for the integration and, as long as that
is found as before, reports the same and asks nothing else. -/
namespace GatedStartup

open Lookup Index

/-- All that the report tells of is there. -/
structure Startup.Settled (s : Startup) (report : Startup.Report) : Prop where
  configured : report.gates.realmsConfigured = realmsConfigured s.realms
  properties : report.properties = s.properties
  running : report.gates.integrationPresent = true → ∀ realm ∈ s.realms, s.lifecycle.runs realm
  manager : s.activation.active = report.manager
  needless : report.manager = none → s.realms = []
  bound : s.catalogue.entries.map (·.2.bound) = report.indexes.map some

theorem Lifecycle.start_running {l : Lifecycle} {realms : List Realm}
    (running : ∀ realm ∈ realms, l.runs realm) : l.start realms = pure (.ok (), l) := by
  induction realms with
  | nil => rfl
  | cons realm rest ih =>
    obtain ⟨first, later⟩ := List.forall_mem_cons.mp running
    rw [start, if_pos first, ih later]

theorem Activation.activate_again {a : Activation} {realms : List Realm}
    (needless : a.active = none → realms = []) : a.activate realms = pure (.ok a.active, a) := by
  cases active : a.active with
  | some manager => simp [activate, active]
  | none => simp [activate, active, Manager.ofRealms?, needless active]

namespace Index

theorem Managed.ensure_bound {x : Managed} {handle : Handle} (k : Collaborators)
    (bound : x.bound = some handle) : x.ensure k = pure (.ok handle, x) := by
  obtain ⟨binding, there, rfl⟩ := Option.map_eq_some_iff.mp bound
  simp [ensure, there]

theorem Catalogue.ensureEntries_bound {entries : List Entry} {handles : List Handle}
    (k : Collaborators) (bound : entries.map (·.2.bound) = handles.map some) :
    ensureEntries k entries = pure (.ok handles, entries) := by
  induction entries generalizing handles with
  | nil =>
    obtain rfl : handles = [] := by simpa using bound.symm
    rfl
  | cons e rest ih =>
    cases handles with
    | nil => simp at bound
    | cons handle handles =>
      obtain ⟨first, later⟩ := List.cons.inj bound
      simp only [ensureEntries, Managed.ensure_bound k first, ih later, pure_bind]
      rfl

end Index

namespace Startup

variable {s s' : Startup} {k : Collaborators} {report : Report} {t : Transcript}

theorem Settled.secure (settled : s.Settled report) :
    s.secure report.gates = pure (.ok report.manager, s) := by
  have started : s.startRealms report.gates = pure (.ok (), s) := by
    rw [startRealms]
    split
    · next present =>
      simp only [Lifecycle.start_running (settled.running present), pure_bind]
    · rfl
  have activated : s.activation.activate s.realms =
      pure (.ok s.activation.active, s.activation) := Activation.activate_again fun inactive =>
    settled.needless (settled.manager.symm.trans inactive)
  simp only [Startup.secure, started, activated, settled.manager, pure_bind]

/-- A settled startup runs by looking for the integration alone. -/
theorem Settled.run {W : Type} {h : Surroundings W} {w : W} (settled : s.Settled report)
    (found : (h (.probe s.gate.probe s.gate.capability) w).1 = report.gates.integrationPresent) :
    (s.run k).run h w =
        ((.ok report, s), (h (.probe s.gate.probe s.gate.capability) w).2) ∧
      (s.run k).events h w =
        [⟨.probe s.gate.probe s.gate.capability, report.gates.integrationPresent⟩] := by
  have gates : Gates.mk report.gates.integrationPresent (realmsConfigured s.realms) =
      report.gates := by rw [← settled.configured]
  have looked : s.gates.run h w =
      (report.gates, (h (.probe s.gate.probe s.gate.capability) w).2) := by
    rw [← gates, ← found]
    rfl
  have asked : s.gates.events h w =
      [⟨.probe s.gate.probe s.gate.capability, report.gates.integrationPresent⟩] := by
    rw [← found]
    rfl
  have ensured : s.catalogue.ensureAll k = pure (.ok report.indexes, s.catalogue) := by
    simp only [Catalogue.ensureAll, Catalogue.ensureEntries_bound k settled.bound, pure_bind]
  have assembled : s.assembler.assemble s.attributes report.gates.realmsConfigured =
      report.properties := by
    rw [settled.properties, settled.configured]
    rfl
  constructor
  · simp only [Startup.run, Program.run_bind, looked, settled.secure, ensured, assembled,
      Program.run_pure]
  · simp only [Startup.run, Program.events_bind, looked, asked, settled.secure, ensured,
      Program.run_pure, Program.events_pure, List.append_nil]

end Startup

theorem Activated.settles {a a' : Activation} {realms : List Realm} {t : Transcript}
    {manager : Option Manager} (activated : Activated a realms t (.ok manager) a') :
    a'.active = manager ∧ (manager = none → realms = []) := by
  cases activated with
  | again active => exact ⟨active, nofun⟩
  | needless inactive vacant => exact ⟨inactive, fun _ => vacant⟩
  | enforced => exact ⟨rfl, nofun⟩

theorem Ensuring.bound_eq {k : Collaborators} {x y : Managed} {t : Transcript} {handle : Handle}
    (ensuring : Ensuring k x t (.ok handle) y) : y.bound = some handle := by
  cases ensuring with
  | known there => simp [Managed.bound, there]
  | bound => rfl

/-- Once every index is ensured every index is bound, to the handle that was handed out. -/
theorem Index.Catalogue.ensureEntries_ok_ends {k : Collaborators} {entries entries' : List Entry}
    {t : Transcript} {handles : List Handle}
    (ends : (ensureEntries k entries).Ends t (.ok handles, entries')) :
    entries'.map (·.2.bound) = handles.map some := by
  induction entries generalizing t handles entries' with
  | nil =>
    obtain ⟨rfl, rfl, rfl⟩ := by simpa [ensureEntries] using ends
    rfl
  | cons e rest ih =>
    obtain ⟨front, ⟨answer, x⟩, later, rfl, first, ends'⟩ := Program.ends_bind.mp ends
    cases answer with
    | error failure => simp at ends'
    | ok handle =>
      obtain ⟨_, ⟨answers, rest'⟩, _, rfl, second, done⟩ := Program.ends_bind.mp ends'
      cases answers with
      | error failure => simp [Except.map] at done
      | ok handles =>
        obtain ⟨rfl, rfl, rfl⟩ := by simpa [Except.map] using done
        simp [(Managed.ensure_ensuring first).bound_eq, ih second]

namespace Startup

variable {s s' : Startup} {k : Collaborators} {report : Report} {t : Transcript}

theorem run_settles (ends : (s.run k).Ends t (.ok report, s')) : s'.Settled report := by
  obtain ⟨secures, searches, s₁, c, rfl, configured, securing, properties, ensuring, rfl⟩ :=
    run_ok_ends ends
  have secured := secure_ends securing
  obtain ⟨_, ⟨_, entries⟩, _, rfl, each, done⟩ := Program.ends_bind.mp ensuring
  obtain ⟨rfl, rfl, rfl⟩ := by simpa using done
  have realms : s₁.realms = s.realms := by rw [secured.frame]
  obtain ⟨manager, needless⟩ :
      s₁.activation.active = report.manager ∧ (report.manager = none → s.realms = []) := by
    cases secured with
    | started _ activated => exact activated.settles
  refine ⟨?_, ?_, fun present => ?_, manager, ?_, Catalogue.ensureEntries_ok_ends each⟩
  · rw [configured, ← realms]
  · rw [properties, ← realms]
    rfl
  · have running := secure_runs securing present
    rwa [← realms] at running
  · rwa [← realms] at needless

end Startup

/-- Looking for the integration, the startup is told that it is there or that it is not. -/
def Scene.Finds (h : Surroundings W) (scene : Scene W) (present : Bool) : Prop :=
  (h (.probe scene.startup.gate.probe scene.startup.gate.capability) scene.world).1 = present

/-- Runs lead from one scene to a later one, with nothing between them. The integration is found as
before each time. -/
inductive Rerun (h : Surroundings W) (present : Bool) (first : Scene W) : Scene W → Prop where
  | here : Rerun h present first first
  | again (k : Collaborators) : Rerun h present first scene → scene.Finds h present →
      Rerun h present first (scene.after h k .run)

/-- A run that reports what was reported before, asks whether the integration is there and nothing
else, and leaves the startup as it was. -/
structure Repeats (h : Surroundings W) (k : Collaborators) (scene : Scene W)
    (report : Startup.Report) : Prop where
  outcome : scene.outcome h k .run = .ran (.ok report)
  asked : scene.asked h k .run =
    [⟨.probe scene.startup.gate.probe scene.startup.gate.capability,
      report.gates.integrationPresent⟩]
  startup : (scene.after h k .run).startup = scene.startup

section

variable {h : Surroundings W} {k : Collaborators} {scene last : Scene W} {report : Startup.Report}

theorem Startup.Settled.repeats (settled : scene.startup.Settled report)
    (found : scene.Finds h report.gates.integrationPresent) (k : Collaborators) :
    Repeats h k scene report := by
  obtain ⟨ran, asked⟩ := settled.run (k := k) found
  refine ⟨?_, ?_, ?_⟩
  · rw [scene.outcome_run, ran]
  · rw [scene.asked_run, asked]
  · simp only [Scene.after, Startup.call, Program.run_bind, Program.run_pure, ran]

theorem Rerun.settled (rerun : Rerun h report.gates.integrationPresent scene last)
    (settled : scene.startup.Settled report) : last.startup.Settled report := by
  induction rerun with
  | here => exact settled
  | again k _ found ih => exact (ih.repeats found k).startup ▸ ih

/-- After a run that has succeeded, in whatever state it found the startup, every further run repeats
it as long as the integration is found as before. -/
theorem run_repeats (succeeded : scene.outcome h k .run = .ran (.ok report))
    (rerun : Rerun h report.gates.integrationPresent (scene.after h k .run) last)
    (found : last.Finds h report.gates.integrationPresent) (k' : Collaborators) :
    Repeats h k' last report := by
  have settled : (scene.after h k .run).startup.Settled report :=
    Startup.run_settles (scene.ran_ends succeeded)
  exact (rerun.settled settled).repeats found k'

end

namespace Trial

open Rehearsal

/-- A run has started both realms, registered a manager and bound the index. A second run has
followed, and a third repeats it though it has no collaborators to find the index with. -/
theorem settled_repeats :
    ∃ report, (registered [staff, guests] "orders").outcome setting.surroundings collaborators
        .run = .ran (.ok report) ∧
      report.manager = some theManager ∧
      report.indexes = [⟨"orders", "/orders", .names ["id"]⟩] ∧
      Repeats setting.surroundings ⟨none, none, none⟩ (next (settled [staff, guests]) .run)
        report := by
  have first : (settled [staff, guests]).Finds setting.surroundings true := rfl
  have second : (next (settled [staff, guests]) .run).Finds setting.surroundings true := rfl
  exact ⟨_, rfl, rfl, rfl, run_repeats rfl (.again collaborators .here first) second _⟩

end Trial
end GatedStartup
