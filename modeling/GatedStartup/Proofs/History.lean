import GatedStartup.Proofs.Effects

/-! The history of a startup: calls one after another in surroundings that answer as they like.
`Reached` says what a history can lead to, `Sound` what holds of it. -/
namespace GatedStartup

open Lookup Index

/-- What can be asked of a startup once it is built. -/
inductive Call where
  | register (component : String) (definition : Definition)
  | addRealm (realm : Realm)
  | run
  | shutdown

inductive Call.Outcome where
  | registered (result : Except ConfigurationError Entry)
  | realmAdded
  | ran (result : Except Failure Startup.Report)
  | ended (result : Except Failure Unit)

def Startup.call (k : Collaborators) (s : Startup) : Call → Work (Call.Outcome × Startup)
  | .register component definition => do
    let (result, s) ← s.register component definition
    pure (.registered result, s)
  | .addRealm realm => pure (.realmAdded, s.addRealm realm)
  | .run => do
    let (result, s) ← s.run k
    pure (.ran result, s)
  | .shutdown => do
    let (result, s) ← s.shutdown
    pure (.ended result, s)

/-- A startup between two calls, with all that was asked and all that came of it so far. -/
structure Scene (W : Type) where
  startup : Startup
  world : W
  past : Transcript
  outcomes : List Call.Outcome

namespace Scene

variable {W : Type}

/-- What a call asks and is answered. -/
def asked (h : Surroundings W) (k : Collaborators) (scene : Scene W) (c : Call) : Transcript :=
  (scene.startup.call k c).events h scene.world

def outcome (h : Surroundings W) (k : Collaborators) (scene : Scene W) (c : Call) : Call.Outcome :=
  ((scene.startup.call k c).run h scene.world).1.1

def after (h : Surroundings W) (k : Collaborators) (scene : Scene W) (c : Call) : Scene W where
  startup := ((scene.startup.call k c).run h scene.world).1.2
  world := ((scene.startup.call k c).run h scene.world).2
  past := scene.past ++ scene.asked h k c
  outcomes := scene.outcomes ++ [scene.outcome h k c]

variable {h : Surroundings W} {k : Collaborators}

theorem outcome_run (scene : Scene W) :
    scene.outcome h k .run = .ran ((scene.startup.run k).run h scene.world).1.1 := by
  simp only [outcome, Startup.call, Program.run_bind, Program.run_pure]

theorem asked_run (scene : Scene W) :
    scene.asked h k .run = (scene.startup.run k).events h scene.world := by
  simp only [asked, Startup.call, Program.events_bind, Program.events_pure, List.append_nil]

end Scene

/-- Built, and not called yet. -/
structure Startup.Untouched (s : Startup) : Prop where
  inactive : s.activation.active = none
  unregistered : s.catalogue = .empty
  idle : s.lifecycle = .idle
  open_ : s.ended = false

/-- Calls in any order and number lead there. Each call may find other collaborators. -/
inductive Reached (h : Surroundings W) : Scene W → Prop where
  | start (s : Startup) (w : W) : s.Untouched → Reached h ⟨s, w, [], []⟩
  | call (k : Collaborators) (c : Call) : Reached h scene → Reached h (scene.after h k c)

inductive Called (s : Startup) : Call → Transcript → Call.Outcome → Startup → Prop where
  | registered {component : String} {definition : Definition}
      {result : Except ConfigurationError Entry} : Registered s.catalogue t c →
      Called s (.register component definition) t (.registered result) { s with catalogue := c }
  | realmAdded {realm : Realm} : Called s (.addRealm realm) [] .realmAdded (s.addRealm realm)
  | ran {result : Except Failure Startup.Report} : Ran s t result s' →
      Called s .run t (.ran result) s'
  | again : s.ended = true → Called s .shutdown [] (.ended (.ok ())) s
  | ended {failed : Option Failure} : s.ended = false →
      DestroyedEach s.catalogue.entries destroys failed entries →
      (∀ e ∈ warns, e.question.topic = .log) → Stopping s.lifecycle stops →
      Called s .shutdown (destroys ++ (warns ++ stops)) (.ended (failed.elim (.ok ()) .error))
        { s with catalogue := ⟨entries⟩, lifecycle := .idle, ended := true }

namespace Startup

variable {k : Collaborators} {s s' : Startup} {t : Transcript}

theorem shutdown_ends {result : Except Failure Unit} (ends : s.shutdown.Ends t (result, s')) :
    Called s .shutdown t (.ended result) s' := by
  rw [shutdown] at ends
  split at ends
  · next already =>
    obtain ⟨rfl, rfl, rfl⟩ := by simpa using ends
    exact .again already
  · next open_ =>
    obtain ⟨front, ⟨destroyed, c⟩, rest, rfl, destroys, rest_ends⟩ := Program.ends_bind.mp ends
    obtain ⟨failed, each, rfl⟩ := Catalogue.destroyAll_ends destroys
    cases failed with
    | none =>
      obtain ⟨stops, _, rest, rfl, stopped, done⟩ := Program.ends_bind.mp rest_ends
      obtain ⟨stopping, rfl⟩ := stopRealms_ends stopped
      obtain ⟨rfl, rfl, rfl⟩ := by simpa using done
      have unwarned : ∀ e ∈ ([] : Transcript), e.question.topic = .log := by simp
      simpa using Called.ended (by simpa using open_) each unwarned stopping
    | some failure =>
      obtain ⟨_, rest, rfl, after⟩ := ends_ask_bind.mp rest_ends
      obtain ⟨stops, _, rest, rfl, stopped, done⟩ := Program.ends_bind.mp after
      obtain ⟨stopping, rfl⟩ := stopRealms_ends stopped
      obtain ⟨rfl, rfl, rfl⟩ := by simpa using done
      have warned : ∀ e ∈ ([⟨.warn (.teardownIncomplete failure), ()⟩] : Transcript),
          e.question.topic = .log := by simp [Request.topic]
      simpa using Called.ended (by simpa using open_) each warned stopping

theorem call_ends {c : Call} {outcome : Call.Outcome} (well : WellNamed s.catalogue.entries)
    (ends : (s.call k c).Ends t (outcome, s')) : Called s c t outcome s' := by
  cases c with
  | register component definition =>
    obtain ⟨front, ⟨result, s₁⟩, rest, rfl, registers, done⟩ := Program.ends_bind.mp ends
    obtain ⟨rfl, rfl, rfl⟩ := by simpa using done
    obtain ⟨front, ⟨result, c⟩, rest, rfl, listed, done⟩ := Program.ends_bind.mp registers
    obtain ⟨rfl, rfl, rfl⟩ := by simpa using done
    simpa using Called.registered (Catalogue.register_ends listed)
  | addRealm realm =>
    obtain ⟨rfl, rfl, rfl⟩ := by simpa [call] using ends
    exact .realmAdded
  | run =>
    obtain ⟨front, ⟨result, s₁⟩, rest, rfl, runs, done⟩ := Program.ends_bind.mp ends
    obtain ⟨rfl, rfl, rfl⟩ := by simpa using done
    simpa using Called.ran (run_ends well runs)
  | shutdown =>
    obtain ⟨front, ⟨result, s₁⟩, rest, rfl, ended, done⟩ := Program.ends_bind.mp ends
    obtain ⟨rfl, rfl, rfl⟩ := by simpa using done
    simpa using shutdown_ends ended

end Startup

namespace Called

variable {s s' : Startup} {c : Call} {t : Transcript} {outcome : Call.Outcome}

theorem ran_of {result : Except Failure Startup.Report} (called : Called s c t (.ran result) s') :
    Ran s t result s' := by
  cases called with
  | ran ran => exact ran

theorem continued (called : Called s c t outcome s') (well : WellNamed s.catalogue.entries) :
    Continued t s.catalogue.entries s'.catalogue.entries := by
  cases called with
  | registered registered => exact registered.continued
  | realmAdded => exact .refl _
  | ran ran => exact ran.continued well
  | again _ => exact .refl _
  | ended _ destroyed _ _ =>
    exact Evolved.continued ((destroyed.losses well).mono fun _ _ _ loss => loss.rebound _)

/-- A lifecycle remembers what runs. -/
theorem running (called : Called s c t outcome s') (well : WellNamed s.catalogue.entries) :
    s'.lifecycle.started = runningAfter s.lifecycle.started t ∧
      (s.lifecycle.Distinct → s'.lifecycle.Distinct) := by
  cases called with
  | registered registered =>
    have quiet : Spares .realms t := registered.spares (by decide)
    exact ⟨(quiet.runningAfter_eq _).symm, id⟩
  | realmAdded | again _ => exact ⟨rfl, id⟩
  | @ran _ _ result ran =>
    obtain ⟨l, -, distinct, running, kept, stopped⟩ := ran.realms well
    refine ⟨running.symm, fun before => ?_⟩
    cases result with
    | ok report => exact kept report rfl ▸ distinct before
    | error failure => simp [(stopped failure rfl).1, Lifecycle.Distinct, Lifecycle.idle]
  | @ended destroys entries warns stops failed _ destroyed logged stopping =>
    have quiet : Spares .realms (destroys ++ warns) :=
      spares_append.mpr ⟨destroyed.spares well (by decide) (by decide),
        spares_of_logged logged (by decide)⟩
    refine ⟨?_, fun _ => by simp [Lifecycle.Distinct, Lifecycle.idle]⟩
    rw [← List.append_assoc, runningAfter_append, quiet.runningAfter_eq, stopping.running.2]
    rfl

theorem destroys (called : Called s c t outcome s') (well : WellNamed s.catalogue.entries)
    {e : Event} (member : e ∈ t) {service : Ref .service} {handle : Handle}
    (asked : e.question = .destroyIndex service handle) :
    ∃ name x, (name, x) ∈ s.catalogue.entries ∧ x.definition.destroyOnShutdown = true ∧
      (x.binding = some ⟨handle, service⟩ ∨
        ∃ path, ⟨.findIndex service name path, some handle⟩ ∈ t) := by
  have known : e.question.topic = .search := congrArg Request.topic asked
  cases called with
  | registered registered => simp [registered.logged e member] at known
  | realmAdded | again _ => contradiction
  | ran ran => exact ran.destroys well member asked
  | @ended destroys entries warns stops failed _ destroyed logged stopping =>
    rcases List.mem_append.mp member with inside | outside
    · obtain ⟨⟨name, x⟩, listed, flagged, b, bound, sort⟩ := destroyed.asked well e inside
      rw [asked] at sort
      obtain ⟨rfl, rfl⟩ : service = b.service ∧ handle = b.handle := by simpa using sort
      exact ⟨name, x, listed, flagged, .inl bound⟩
    · rcases List.mem_append.mp outside with warning | stop
      · simp [logged e warning] at known
      · exact absurd known (stopping.spares (by decide) e stop)

theorem ended_iff (called : Called s c t outcome s') :
    s'.ended = true ↔ s.ended = true ∨ ∃ result, outcome = .ended result := by
  cases called with
  | registered | realmAdded => simp [Startup.addRealm]
  | ran ran => simp [ran.ended_eq]
  | again already => simp [already]
  | ended => simp

theorem slot_eq (called : Called s c t outcome s') : s'.activation.slot = s.activation.slot := by
  cases called with
  | ran ran => exact ran.slot_eq
  | _ => rfl

/-- Only a run is about the manager. -/
theorem unmanaged (called : Called s c t outcome s') (well : WellNamed s.catalogue.entries)
    (other : c ≠ .run) : Spares .manager t ∧ s'.activation = s.activation := by
  cases called with
  | registered registered => exact ⟨registered.spares (by decide), rfl⟩
  | realmAdded | again _ => exact ⟨spares_nil, rfl⟩
  | ran _ => exact absurd rfl other
  | ended _ destroyed logged stopping =>
    refine ⟨spares_append.mpr ⟨destroyed.spares well (by decide) (by decide), ?_⟩, rfl⟩
    exact spares_append.mpr
      ⟨spares_of_logged logged (by decide), stopping.spares (by decide)⟩

theorem onlySlot (called : Called s c t outcome s') (well : WellNamed s.catalogue.entries) :
    OnlySlot s.activation.slot t := by
  by_cases runs : c = .run
  · subst runs
    cases called with
    | ran ran => exact ran.onlySlot well
  · exact (called.unmanaged well runs).1.onlySlot

theorem backed (called : Called s c t outcome s') (well : WellNamed s.catalogue.entries)
    {first last : Option Manager} (trace : SlotTrace s.activation.slot first t last)
    (before : s.activation.Backed first) : s'.activation.Backed last := by
  by_cases runs : c = .run
  · subst runs
    cases called with
    | ran ran => exact ran.backed well trace before
  · obtain ⟨quiet, same⟩ := called.unmanaged well runs
    obtain rfl := (SlotTrace.silent quiet).mp trace
    exact same ▸ before

end Called

/-- Catalogue and lifecycle agree with what was asked and answered. -/
structure Sound (scene : Scene W) : Prop where
  well : WellNamed scene.startup.catalogue.entries
  running : scene.startup.lifecycle.started = runningAfter [] scene.past
  distinct : scene.startup.lifecycle.Distinct
  /-- What is bound was found under its name, at the service it is bound to. -/
  supplied : ∀ name x b, (name, x) ∈ scene.startup.catalogue.entries → x.binding = some b →
    ∃ path, ⟨.findIndex b.service name path, some b.handle⟩ ∈ scene.past
  /-- What was destroyed was found under the name of an index that is to go with the process. -/
  destroyed : ∀ e ∈ scene.past, ∀ service handle, e.question = .destroyIndex service handle →
    ∃ name x path, (name, x) ∈ scene.startup.catalogue.entries ∧
      x.definition.destroyOnShutdown = true ∧
      ⟨.findIndex service name path, some handle⟩ ∈ scene.past
  ended : scene.startup.ended = true ↔ ∃ result, .ended result ∈ scene.outcomes

theorem Startup.Untouched.sound {s : Startup} (untouched : s.Untouched) (w : W) :
    Sound (⟨s, w, [], []⟩ : Scene W) where
  well := by rw [untouched.unregistered]; exact ⟨by simp [Catalogue.empty], List.nodup_nil⟩
  running := congrArg Lifecycle.started untouched.idle
  distinct := by simp [untouched.idle, Lifecycle.Distinct, Lifecycle.idle]
  supplied := by simp [untouched.unregistered, Catalogue.empty]
  destroyed := by simp
  ended := by simp [untouched.open_]

namespace Sound

variable {W : Type} {scene : Scene W}

theorem called (sound : Sound scene) (h : Surroundings W) (k : Collaborators) (c : Call) :
    Called scene.startup c (scene.asked h k c) (scene.outcome h k c) (scene.after h k c).startup :=
  Startup.call_ends sound.well (Program.ends_events h _ scene.world)

/-- A call finds and leaves the slot as its questions and answers say. -/
theorem slotTrace {h : Surroundings W} {held : W → Option Manager} (sound : Sound scene)
    (keeps : KeepsSlot h scene.startup.activation.slot held) (k : Collaborators) (c : Call) :
    SlotTrace scene.startup.activation.slot (held scene.world) (scene.asked h k c)
      (held (scene.after h k c).world) :=
  keeps.trace ((sound.called h k c).onlySlot sound.well)

theorem after (sound : Sound scene) (h : Surroundings W) (k : Collaborators) (c : Call) :
    Sound (scene.after h k c) := by
  have called := sound.called h k c
  have continued := called.continued sound.well
  obtain ⟨running, distinct⟩ := called.running sound.well
  refine ⟨continued.well sound.well, ?_, distinct sound.distinct, ?_, ?_, ?_⟩
  · rw [running, sound.running]
    exact (runningAfter_append ..).symm
  · intro name x' b listed bound
    rcases continued.bound name x' b listed bound with ⟨x, before, bound'⟩ | ⟨path, found⟩
    · obtain ⟨path, found⟩ := sound.supplied name x b before bound'
      exact ⟨path, List.mem_append_left _ found⟩
    · exact ⟨path, List.mem_append_right _ found⟩
  · intro e member service handle asked
    rcases List.mem_append.mp member with early | late
    · obtain ⟨name, x, path, before, flagged, found⟩ := sound.destroyed e early service handle asked
      obtain ⟨x', listed, same⟩ := continued.kept name x before
      exact ⟨name, x', path, listed, same ▸ flagged, List.mem_append_left _ found⟩
    · obtain ⟨name, x, before, flagged, bound⟩ := called.destroys sound.well late asked
      obtain ⟨x', listed, same⟩ := continued.kept name x before
      refine ⟨name, x', ?_⟩
      rcases bound with bound | ⟨path, found⟩
      · obtain ⟨path, found⟩ := sound.supplied name x _ before bound
        exact ⟨path, listed, same ▸ flagged, List.mem_append_left _ found⟩
      · exact ⟨path, listed, same ▸ flagged, List.mem_append_right _ found⟩
  · rw [called.ended_iff, sound.ended]
    simp [Scene.after, exists_or, eq_comm]

end Sound

theorem Reached.sound {h : Surroundings W} {scene : Scene W} (reached : Reached h scene) :
    Sound scene := by
  induction reached with
  | start s w untouched => exact untouched.sound w
  | call k c _ ih => exact ih.after _ k c

/-- The slot holds the manager that the activation remembers. -/
theorem Reached.backed {h : Surroundings W} {scene : Scene W} {held : W → Option Manager}
    (reached : Reached h scene) (keeps : KeepsSlot h scene.startup.activation.slot held) :
    scene.startup.activation.Backed (held scene.world) := by
  induction reached with
  | start s w untouched => exact .of_inactive untouched.inactive
  | @call scene k c reached ih =>
    have called := reached.sound.called h k c
    rw [called.slot_eq] at keeps
    exact called.backed reached.sound.well (reached.sound.slotTrace keeps k c) (ih keeps)

namespace Trial

open Rehearsal

/-- The last realm has no users and cannot start. -/
def accounts : List Accounts :=
  [⟨"staff", ⟨[("ann", "a")]⟩⟩, ⟨"guests", ⟨[("bob", "b")]⟩⟩, ⟨"nobody", .empty⟩]

def staff : Realm := ⟨0, "staff"⟩
def guests : Realm := ⟨1, "guests"⟩
def nobody : Realm := ⟨2, "nobody"⟩

def setting : Setting where
  probe := .builtIn
    (fun name => if name = integrationsVariable then some securityIntegration else none)
    fun _ => false
  accounts := accounts
  directory := .empty

/-- A store of one index, which is handed out under a name of its own. Under any name but `orders`
the store does not know it when it is to be destroyed. -/
def stage (handedOut : String) : Stage where
  regions := .empty
  store := { Engine.IndexStore.empty with
    indexes := ⟨[(⟨"orders", "/orders"⟩, ⟨handedOut, "/orders", .names ["id"]⟩)]⟩ }
  enforced := false
  slot := none
  warnings := []

def collaborators : Collaborators := ⟨none, some theService, none⟩

def orders : Definition :=
  { Definition.vacant with
    name := "orders", regionPath := some "/orders", destroyOnShutdown := true }

/-- A definition without a region. -/
def astray : Definition := { Definition.vacant with name := "astray" }

def opening (realms : List Realm) (handedOut : String) : Scene Stage where
  startup := { Startup.fresh "shop" theProbe (.inactive 0 theSlot theSwitch) with realms := realms }
  world := stage handedOut
  past := []
  outcomes := []

def next (scene : Scene Stage) (c : Call) : Scene Stage :=
  scene.after setting.surroundings collaborators c

/-- The scene once the index is registered. -/
def registered (realms : List Realm) (handedOut : String) : Scene Stage :=
  next (opening realms handedOut) (.register "shop" orders)

theorem reached_registered (realms : List Realm) (handedOut : String) :
    Reached setting.surroundings (registered realms handedOut) :=
  .call _ _ (.start _ _ ⟨rfl, rfl, rfl, rfl⟩)

/-- The scene once a first run has succeeded. -/
def settled (realms : List Realm) : Scene Stage := next (registered realms "orders") .run

theorem reached_settled (realms : List Realm) :
    Reached setting.surroundings (settled realms) :=
  .call _ _ (reached_registered _ _)

/-- The handle that the index is bound to. -/
def bound? (scene : Scene Stage) : Option Handle :=
  (scene.startup.catalogue.get? "orders").bind Managed.bound

end Trial
end GatedStartup
