import GatedStartup.Proofs.History

/-! Whether the realms of a registered manager run. Stopping the realms and taking the manager back
are two things, and only a rollback does both: a shutdown stops the realms and leaves the manager,
and so does a run that cannot start a realm. -/
namespace GatedStartup

open Lookup Index

/-- No realm of that number is stopped. -/
def Unstopped (t : Transcript) (number : Nat) : Prop :=
  ∀ e ∈ t, ∀ realm, e.question = .stopRealm realm → realm.number ≠ number

/-- The realm was started, and not stopped since. -/
def Alive (t : Transcript) (realm : Realm) : Prop :=
  ∃ front started rest, t = front ++ ⟨.startRealm started, .ok ()⟩ :: rest ∧
    started.number = realm.number ∧ Unstopped rest realm.number

section

variable {t : Transcript} {e : Event} {realm : Realm} {before : List Realm}

theorem unstopped_cons {number : Nat} : Unstopped (e :: t) number ↔
    (∀ realm, e.question = .stopRealm realm → realm.number ≠ number) ∧ Unstopped t number :=
  List.forall_mem_cons

theorem alive_cons : Alive (e :: t) realm ↔
    Alive t realm ∨ (∃ started, e = ⟨.startRealm started, .ok ()⟩ ∧
      started.number = realm.number) ∧ Unstopped t realm.number := by
  constructor
  · rintro ⟨front, started, rest, same, known, unstopped⟩
    cases front with
    | nil =>
      obtain ⟨rfl, rfl⟩ := List.cons.inj same
      exact .inr ⟨⟨started, rfl, known⟩, unstopped⟩
    | cons first front =>
      obtain ⟨rfl, rfl⟩ := List.cons.inj same
      exact .inl ⟨front, started, rest, rfl, known, unstopped⟩
  · rintro (⟨front, started, rest, rfl, known, unstopped⟩ | ⟨⟨started, rfl, known⟩, unstopped⟩)
    · exact ⟨e :: front, started, rest, rfl, known, unstopped⟩
    · exact ⟨[], started, t, rfl, known, unstopped⟩

/-- A realm runs after an exchange if it is started there, or ran before and is not stopped. -/
theorem Exchange.mem_track {number : Nat} :
    (∃ r ∈ e.track before, r.number = number) ↔
      (∃ started, e = ⟨.startRealm started, .ok ()⟩ ∧ started.number = number) ∨
        (∃ r ∈ before, r.number = number) ∧
          ∀ realm, e.question = .stopRealm realm → realm.number ≠ number := by
  obtain ⟨question, answer⟩ := e
  cases question with
  | startRealm started =>
    cases answer with
    | error => simp [track, started?, stopped?]
    | ok => simp [track, started?, stopped?, or_comm, or_and_right, exists_or]
  | stopRealm stopped =>
    have unstarted : ¬ ∃ started, (⟨.stopRealm stopped, answer⟩ : Event) =
        ⟨.startRealm started, .ok ()⟩ ∧ started.number = number := by simp
    simp only [unstarted, false_or, track, started?, stopped?, Realm.without, List.mem_filter,
      bne_iff_ne, Request.stopRealm.injEq, forall_eq']
    constructor
    · rintro ⟨r, ⟨inside, other⟩, rfl⟩
      exact ⟨⟨r, inside, rfl⟩, other.symm⟩
    · rintro ⟨⟨r, inside, rfl⟩, other⟩
      exact ⟨r, ⟨inside, other.symm⟩, rfl⟩
  | _ => simp [track, started?, stopped?]

theorem mem_runningAfter : (∃ r ∈ runningAfter before t, r.number = realm.number) ↔
    Alive t realm ∨ (∃ r ∈ before, r.number = realm.number) ∧ Unstopped t realm.number := by
  induction t generalizing before with
  | nil => simp [runningAfter, Alive, Unstopped]
  | cons e t ih =>
    change (∃ r ∈ runningAfter (e.track before) t, r.number = realm.number) ↔ _
    rw [ih, Exchange.mem_track, alive_cons, unstopped_cons, or_and_right, and_assoc, or_assoc]

theorem alive_iff : Alive t realm ↔ ∃ r ∈ runningAfter [] t, r.number = realm.number := by
  simp [mem_runningAfter]

end

section

variable {l l' : Lifecycle} {t : Transcript}

theorem Lifecycle.runs_mono {realm : Realm} {begun : List Realm}
    (kept : l'.started = l.started ++ begun) (before : l.runs realm) : l'.runs realm := by
  rw [runs, kept, List.any_append]
  exact Bool.or_eq_true_iff.mpr (.inl before)

theorem Starting.runs {realm : Realm} (starting : Starting l t l') (before : l.runs realm) :
    l'.runs realm :=
  Lifecycle.runs_mono starting.remembered before

theorem Lifecycle.runs_iff {realm : Realm} :
    l.runs realm ↔ ∃ r ∈ l.started, r.number = realm.number := by
  simp [runs]

/-- Once the start has succeeded every realm runs. -/
theorem Lifecycle.start_runs {realms : List Realm} (ends : (l.start realms).Ends t (.ok (), l')) :
    ∀ realm ∈ realms, l'.runs realm := by
  induction realms generalizing l t with
  | nil => simp
  | cons realm rest ih =>
    rw [start] at ends
    split at ends
    · next known => exact List.forall_mem_cons.mpr ⟨(start_ends ends).runs known, ih ends⟩
    · obtain ⟨answer, later, rfl, last⟩ := ends_ask_bind.mp ends
      cases answer with
      | error error => simp at last
      | ok =>
        have started : (⟨l.started ++ [realm]⟩ : Lifecycle).runs realm := by simp [runs]
        exact List.forall_mem_cons.mpr ⟨(start_ends last).runs started, ih last⟩

namespace Startup

variable {k : Collaborators} {s s' : Startup}

theorem secure_runs {gates : Gates} {manager : Option Manager}
    (ends : (s.secure gates).Ends t (.ok manager, s')) (present : gates.integrationPresent = true) :
    ∀ realm ∈ s.realms, s'.lifecycle.runs realm := by
  obtain ⟨front, ⟨started, s₁⟩, rest, rfl, starts, activation⟩ := Program.ends_bind.mp ends
  cases started with
  | error error => simp at activation
  | ok =>
    obtain ⟨_, ⟨_, a⟩, _, rfl, _, done⟩ := Program.ends_bind.mp activation
    obtain ⟨rfl, -, rfl⟩ := by simpa using done
    simp only [startRealms, present, if_true] at starts
    obtain ⟨_, ⟨_, l⟩, _, rfl, starting, done⟩ := Program.ends_bind.mp starts
    obtain ⟨rfl, rfl, rfl⟩ := by simpa using done
    exact Lifecycle.start_runs starting

/-- A run that succeeds looks for the integration, secures the realms and ensures the indexes. -/
theorem run_ok_ends {report : Report} (ends : (s.run k).Ends t (.ok report, s')) :
    ∃ secures searches s₁ c,
      t = ⟨.probe s.gate.probe s.gate.capability, report.gates.integrationPresent⟩ ::
        (secures ++ searches) ∧
      report.gates.realmsConfigured = realmsConfigured s.realms ∧
      (s.secure report.gates).Ends secures (.ok report.manager, s₁) ∧
      report.properties = s₁.assembler.assemble s₁.attributes (realmsConfigured s.realms) ∧
      (s₁.catalogue.ensureAll k).Ends searches (.ok report.indexes, c) ∧
      s' = { s₁ with catalogue := c } := by
  obtain ⟨front, gates, rest, rfl, looked, secured⟩ := Program.ends_bind.mp ends
  obtain ⟨found, _, rfl, done⟩ := ends_ask_bind.mp looked
  obtain ⟨rfl, rfl⟩ := by simpa using done
  obtain ⟨secures, ⟨activated, s₁⟩, _, rfl, securing, after⟩ := Program.ends_bind.mp secured
  cases activated with
  | error error =>
    obtain ⟨_, _, _, rfl, _, last⟩ := Program.ends_bind.mp after
    simp at last
  | ok manager =>
    obtain ⟨searches, ⟨ensured, c⟩, _, rfl, ensuring, finish⟩ := Program.ends_bind.mp after
    cases ensured with
    | error failure =>
      obtain ⟨_, _, _, rfl, _, last⟩ := Program.ends_bind.mp finish
      simp at last
    | ok handles =>
      obtain ⟨rfl, rfl, rfl⟩ := by simpa using finish
      exact ⟨secures, searches, s₁, c, by simp, rfl, securing, rfl, ensuring, rfl⟩

/-- After a run that succeeds every realm runs, unless the integration was found missing. -/
theorem run_runs {report : Report} (ends : (s.run k).Ends t (.ok report, s'))
    (present : ⟨.probe s.gate.probe s.gate.capability, false⟩ ∉ t) :
    ∀ realm ∈ s.realms, s'.lifecycle.runs realm := by
  obtain ⟨secures, searches, s₁, c, rfl, -, securing, -, -, rfl⟩ := run_ok_ends ends
  have found : report.gates.integrationPresent = true := by
    cases found : report.gates.integrationPresent with
    | false => simp [found] at present
    | true => rfl
  have running := secure_runs securing found
  exact running

end Startup
end

section

variable {first last : Option Manager} {m : Manager} {t : Transcript}

theorem Spares.puts_none {slot : Ref .slot} {put : Bool} (quiet : Spares .manager t) :
    ⟨.register slot m, put⟩ ∉ t := fun member => quiet _ member rfl

/-- A manager can only be put into an empty slot, and is remembered if the activation succeeds. -/
theorem Activated.of_put {a a' : Activation} {realms : List Realm}
    {result : Except ActivationError (Option Manager)} (activated : Activated a realms t result a')
    (trace : SlotTrace a.slot first t last) (put : ⟨.register a.slot m, true⟩ ∈ t) :
    first = none ∧ a.active = none ∧ ∀ manager, result = .ok manager → a'.active = some m := by
  cases activated with
  | again | needless => simp at put
  | taken => simp at put
  | refused inactive _ =>
    obtain ⟨empty, -⟩ := SlotTrace.at_register.mp trace
    exact ⟨Option.isNone_iff_eq_none.mp empty.symm, inactive, by simp⟩
  | enforced inactive _ =>
    obtain ⟨empty, -⟩ := SlotTrace.at_register.mp trace
    obtain rfl : m = a.next realms := by simpa using put
    exact ⟨Option.isNone_iff_eq_none.mp empty.symm, inactive, by simp⟩

theorem Deactivated.puts_none {a a' : Activation} {slot : Ref .slot} {put : Bool}
    (deactivated : Deactivated a t a') : ⟨.register slot m, put⟩ ∉ t := by
  cases deactivated <;> simp

variable {s s' : Startup} {result : Except Failure Startup.Report}

theorem Secured.of_put {secured : Except ActivationError (Option Manager)}
    (securing : Secured s t secured s') (trace : SlotTrace s.activation.slot first t last)
    (put : ⟨.register s.activation.slot m, true⟩ ∈ t) :
    first = none ∧ s.activation.active = none ∧
      ∀ manager, secured = .ok manager → s'.activation.active = some m := by
  cases securing with
  | unstarted starting => exact absurd put (starting.spares (by decide)).puts_none
  | started starting activated =>
    have quiet : Spares .manager _ := starting.spares (by decide)
    refine activated.of_put ((SlotTrace.spared_append quiet).mp trace) ?_
    exact (List.mem_append.mp put).resolve_left quiet.puts_none

/-- A run puts a manager into an empty slot only, and remembers it if it succeeds. -/
theorem Ran.of_put (ran : Ran s t result s') (well : WellNamed s.catalogue.entries)
    (trace : SlotTrace s.activation.slot first t last)
    (put : ⟨.register s.activation.slot m, true⟩ ∈ t) :
    first = none ∧ s.activation.active = none ∧
      ∀ report, result = .ok report → s'.activation.active = some m := by
  have securing {t' rest : Transcript} {s₁ : Startup} {present : Bool}
      {secured : Except ActivationError (Option Manager)} (early : Secured s t' secured s₁)
      (same : t = ⟨.probe s.gate.probe s.gate.capability, present⟩ :: (t' ++ rest))
      (absent : ⟨.register s.activation.slot m, true⟩ ∉ rest) :
      first = none ∧ s.activation.active = none ∧
        ∀ manager, secured = .ok manager → s₁.activation.active = some m := by
    subst same
    obtain ⟨middle, trace, -⟩ := SlotTrace.append.mp ((SlotTrace.at_other rfl).mp trace)
    exact early.of_put trace (by simpa [absent] using put)
  cases ran with
  | unsecured early stopping =>
    obtain ⟨empty, inactive, -⟩ := securing early rfl (stopping.spares (by decide)).puts_none
    exact ⟨empty, inactive, by simp⟩
  | rolledBack early each back =>
    obtain ⟨front, withdrawal, stops, rfl, -, quiet, deactivated, stopping, -⟩ :=
      back.parts (ensured_well early each well)
    obtain ⟨empty, inactive, -⟩ := securing early rfl (by
      simp [(each.spares (by decide)).puts_none, quiet.puts_none, deactivated.puts_none,
        (stopping.spares (by decide)).puts_none])
    exact ⟨empty, inactive, by simp⟩
  | succeeded early each =>
    obtain ⟨empty, inactive, kept⟩ := securing early rfl (each.spares (by decide)).puts_none
    exact ⟨empty, inactive, fun _ _ => kept _ rfl⟩

/-- A run that succeeds leaves slot and activation alone, or fills both with one manager over the
realms. -/
theorem Ran.ok_slot {report : Startup.Report} (ran : Ran s t (.ok report) s')
    (trace : SlotTrace s.activation.slot first t last) :
    (s'.activation = s.activation ∧ last = first) ∨
      ∃ m, s'.activation.active = some m ∧ last = some m ∧ m.realms = s.realms ∧ s.realms ≠ [] := by
  cases ran with
  | succeeded secured each =>
    rw [SlotTrace.at_other rfl, SlotTrace.append_spared (each.spares (by decide))] at trace
    cases secured with
    | started starting activated =>
      have trace := (SlotTrace.spared_append (starting.spares (by decide))).mp trace
      cases activated with
      | again | needless => exact .inl ⟨rfl, by simpa using trace⟩
      | enforced inactive listed =>
        obtain ⟨empty, rfl⟩ :
            first = none ∧ last = first.or (some (s.activation.next s.realms)) := by
          simpa using trace
        exact .inr ⟨_, rfl, by simp [empty], rfl, listed⟩

theorem Ran.realms_eq (ran : Ran s t result s') : s'.realms = s.realms := by
  cases ran with
  | unsecured secured _ => rw [secured.frame]
  | succeeded secured _ => rw [secured.frame]
  | rolledBack secured _ back =>
    cases back with
    | done => rw [secured.frame]

end

/-- The scene with another configuration: gate, realms, attributes and assembler. -/
def Scene.configured (scene : Scene W) (gate : Gate) (realms : List Realm)
    (attributes : Attributes) (assembler : Assembler) : Scene W :=
  { scene with
    startup := { scene.startup with
      gate := gate, realms := realms, attributes := attributes, assembler := assembler } }

/-- Calls in any order and number lead there. Until the first run the configuration may be replaced
in between. -/
inductive Operated (h : Surroundings W) : Scene W → Prop where
  | start (s : Startup) (w : W) : s.Untouched → Operated h ⟨s, w, [], []⟩
  | configure : Operated h scene → (∀ result, .ran result ∉ scene.outcomes) →
      Operated h (scene.configured gate realms attributes assembler)
  | call (k : Collaborators) (c : Call) : Operated h scene → Operated h (scene.after h k c)

theorem Reached.operated {h : Surroundings W} {scene : Scene W} (reached : Reached h scene) :
    Operated h scene := by
  induction reached with
  | start s w untouched => exact .start s w untouched
  | call k c _ ih => exact ih.call k c

theorem Operated.sound {h : Surroundings W} {scene : Scene W} (operated : Operated h scene) :
    Sound scene := by
  induction operated with
  | start s w untouched => exact untouched.sound w
  | configure _ _ ih =>
    exact ⟨ih.well, ih.running, ih.distinct, ih.supplied, ih.destroyed, ih.ended⟩
  | call k c _ ih => exact ih.after _ k c

/-- What stops every realm: a run that fails, and the first shutdown. -/
def Call.Outcome.Halts (earlier : List Call.Outcome) : Call.Outcome → Prop
  | .ran (.error _) => True
  | .ended _ => ∀ result, .ended result ∉ earlier
  | _ => False

/-- Every realm was stopped, and no run has succeeded since. -/
def Halted (outcomes : List Call.Outcome) : Prop :=
  ∃ front o rest, outcomes = front ++ o :: rest ∧ o.Halts front ∧
    ∀ report, .ran (.ok report) ∉ rest

theorem not_halted_nil : ¬ Halted [] := by
  rintro ⟨front, o, rest, same, -⟩
  simp at same

theorem halted_concat {outcomes : List Call.Outcome} {o : Call.Outcome} :
    Halted (outcomes ++ [o]) ↔
      o.Halts outcomes ∨ Halted outcomes ∧ ∀ report, o ≠ .ran (.ok report) := by
  constructor
  · rintro ⟨front, halting, rest, same, halts, unrun⟩
    rcases List.eq_nil_or_concat' rest with rfl | ⟨rest, last, rfl⟩
    · obtain ⟨rfl, single⟩ := List.append_inj' same rfl
      obtain rfl := List.singleton_inj.mp single
      exact .inl halts
    · rw [← List.cons_append, ← List.append_assoc] at same
      obtain ⟨rfl, single⟩ := List.append_inj' same rfl
      obtain rfl := List.singleton_inj.mp single
      refine .inr ⟨⟨front, halting, rest, rfl, halts, fun report member => ?_⟩, fun report => ?_⟩
      · exact unrun report (List.mem_append_left _ member)
      · rintro rfl
        exact unrun report (List.mem_append_right _ List.mem_cons_self)
  · rintro (halts | ⟨⟨front, halting, rest, rfl, halts, unrun⟩, failed⟩)
    · exact ⟨outcomes, o, [], rfl, halts, by simp⟩
    · refine ⟨front, halting, rest ++ [o], by simp, halts, fun report member => ?_⟩
      rcases List.mem_append.mp member with early | late
      · exact unrun report early
      · exact failed report (List.mem_singleton.mp late).symm

/-- No look for the integration missed it. -/
def Integrated (t : Transcript) : Prop := ∀ probe capability, ⟨.probe probe capability, false⟩ ∉ t

/-- How the manager that a startup remembers stands to the slot and to the realms. -/
structure Manned (held : W → Option Manager) (scene : Scene W) : Prop where
  unrun : (∀ result, .ran result ∉ scene.outcomes) → scene.startup.activation.active = none
  backed : scene.startup.activation.Backed (held scene.world)
  /-- What the startup has put into the slot is there only as long as it is remembered. -/
  remembered : ∀ m, held scene.world = some m →
    ⟨.register scene.startup.activation.slot m, true⟩ ∈ scene.past →
    scene.startup.activation.active = some m
  listed : ∀ m, scene.startup.activation.active = some m →
    m.realms ≠ [] ∧ ∀ realm ∈ m.realms, realm ∈ scene.startup.realms
  idle : Halted scene.outcomes → scene.startup.lifecycle = .idle
  runs : Integrated scene.past → ¬ Halted scene.outcomes →
    ∀ m, scene.startup.activation.active = some m → ∀ realm ∈ m.realms,
      scene.startup.lifecycle.runs realm

section

variable {h : Surroundings W} {k : Collaborators} {held : W → Option Manager} {scene : Scene W}

theorem Scene.ran_ends {result : Except Failure Startup.Report}
    (ran : scene.outcome h k .run = .ran result) :
    (scene.startup.run k).Ends (scene.asked h k .run)
      (result, (scene.after h k .run).startup) := by
  have ends := Program.ends_events h (scene.startup.run k) scene.world
  rw [scene.outcome_run] at ran
  have same : (scene.after h k .run).startup =
      ((scene.startup.run k).run h scene.world).1.2 := by
    simp only [Scene.after, Startup.call, Program.run_bind, Program.run_pure]
  rw [scene.asked_run, same, ← Call.Outcome.ran.inj ran]
  exact ends

variable {s s' : Startup} {c : Call} {t : Transcript} {outcome : Call.Outcome}
  {outcomes : List Call.Outcome}

theorem Called.realms_kept (called : Called s c t outcome s') :
    ∀ realm ∈ s.realms, realm ∈ s'.realms := by
  cases called with
  | realmAdded => exact fun realm listed => List.mem_append_left _ listed
  | ran ran => exact fun realm listed => ran.realms_eq ▸ listed
  | registered | again | ended => exact fun realm listed => listed

/-- A call that is no run leaves the realms alone, unless it is the first shutdown. -/
theorem Called.lifecycle_of_unrun (called : Called s c t outcome s') (unrun : c ≠ .run)
    (ended : s.ended = true ↔ ∃ result, .ended result ∈ outcomes) :
    (outcome.Halts outcomes ∧ s'.lifecycle = .idle) ∨
      (¬ outcome.Halts outcomes ∧ s'.lifecycle = s.lifecycle) := by
  cases called with
  | registered | realmAdded => exact .inr ⟨id, rfl⟩
  | ran => exact absurd rfl unrun
  | again already =>
    obtain ⟨result, earlier⟩ := ended.mp already
    exact .inr ⟨fun first => first result earlier, rfl⟩
  | ended open_ =>
    refine .inl ⟨fun result earlier => ?_, rfl⟩
    simp [ended.mpr ⟨result, earlier⟩] at open_

theorem Called.ran_or_unrun (called : Called s c t outcome s') :
    c ≠ .run ∧ (∀ result, outcome ≠ .ran result) ∨ c = .run ∧ ∃ result, outcome = .ran result := by
  cases called <;> simp

namespace Manned

theorem configured (manned : Manned held scene) (unrun : ∀ result, .ran result ∉ scene.outcomes)
    {gate : Gate} {realms : List Realm} {attributes : Attributes} {assembler : Assembler} :
    Manned held (scene.configured gate realms attributes assembler) where
  unrun := manned.unrun
  backed := manned.backed
  remembered := manned.remembered
  listed m active := absurd active (by simp [Scene.configured, manned.unrun unrun])
  idle := manned.idle
  runs := manned.runs

theorem after_unrun (manned : Manned held scene) (sound : Sound scene)
    (keeps : KeepsSlot h scene.startup.activation.slot held) (unrun : c ≠ .run) :
    Manned held (scene.after h k c) := by
  have called := sound.called h k c
  have trace := sound.slotTrace keeps k c
  obtain ⟨quiet, same⟩ := called.unmanaged sound.well unrun
  have kept := (SlotTrace.silent quiet).mp trace
  have failed : ∀ report, scene.outcome h k c ≠ .ran (.ok report) := by
    rcases called.ran_or_unrun with ⟨-, other⟩ | ⟨runs, -⟩
    · exact fun report => other _
    · exact absurd runs unrun
  refine ⟨fun unrun => ?_, called.backed sound.well trace manned.backed, fun m holds put => ?_,
    fun m active => ?_, fun halted => ?_, fun integrated unhalted m active realm listed => ?_⟩
  · exact same ▸ manned.unrun fun result earlier => unrun result (List.mem_append_left _ earlier)
  · rw [same] at put ⊢
    refine manned.remembered m (kept ▸ holds) ((List.mem_append.mp put).resolve_right ?_)
    exact quiet.puts_none
  · obtain ⟨inhabited, listed⟩ := manned.listed m (same ▸ active)
    exact ⟨inhabited, fun realm member => called.realms_kept realm (listed realm member)⟩
  · rcases called.lifecycle_of_unrun unrun sound.ended with ⟨-, idle⟩ | ⟨spared, kept⟩
    · exact idle
    · exact kept.trans (manned.idle ((halted_concat.mp halted).resolve_left spared).1)
  · rcases called.lifecycle_of_unrun unrun sound.ended with ⟨halts, -⟩ | ⟨-, kept⟩
    · exact absurd (halted_concat.mpr (.inl halts)) unhalted
    · rw [kept]
      refine manned.runs (fun probe capability missed => ?_) (fun halted => ?_) m (same ▸ active)
        realm listed
      · exact integrated probe capability (List.mem_append_left _ missed)
      · exact unhalted (halted_concat.mpr (.inr ⟨halted, failed⟩))

theorem after_failure (manned : Manned held scene) (sound : Sound scene)
    (keeps : KeepsSlot h scene.startup.activation.slot held) {failure : Failure}
    (failed : scene.outcome h k .run = .ran (.error failure)) :
    Manned held (scene.after h k .run) := by
  have called := sound.called h k .run
  have trace := sound.slotTrace keeps k .run
  rw [failed] at called
  have ran := called.ran_of
  obtain ⟨l, -, -, -, -, stopped⟩ := ran.realms sound.well
  obtain ⟨kept, undone⟩ := ran.failed_slot sound.well trace manned.backed
  have halted : Halted (scene.outcomes ++ [scene.outcome h k .run]) :=
    halted_concat.mpr (.inl (by rw [failed]; trivial))
  have active {m : Manager} (active : (scene.after h k .run).startup.activation.active = some m) :
      scene.startup.activation.active = some m := by
    by_cases inside : failure.InActivation
    · exact (kept inside).1 ▸ active
    · simp [(undone inside).1] at active
  refine ⟨fun unrun => absurd (failed ▸ List.mem_concat_self) (unrun (.error failure)),
    called.backed sound.well trace manned.backed, fun m holds put => ?_, fun m still => ?_,
    fun _ => (stopped failure rfl).1, fun _ unhalted => absurd halted unhalted⟩
  · rw [called.slot_eq] at put
    have found : held scene.world = some m := by
      by_cases inside : failure.InActivation
      · exact (kept inside).2.symm.trans holds
      · cases active : scene.startup.activation.active <;> simp_all
    have early : ⟨.register scene.startup.activation.slot m, true⟩ ∈ scene.past := by
      refine (List.mem_append.mp put).resolve_right fun late => ?_
      simp [(ran.of_put sound.well trace late).1] at found
    have active := manned.remembered m found early
    by_cases inside : failure.InActivation
    · exact (kept inside).1 ▸ active
    · simp [(undone inside).2, active] at holds
  · obtain ⟨inhabited, listed⟩ := manned.listed m (active still)
    exact ⟨inhabited, fun realm member => ran.realms_eq ▸ listed realm member⟩

theorem after_success (manned : Manned held scene) (sound : Sound scene)
    (keeps : KeepsSlot h scene.startup.activation.slot held) {report : Startup.Report}
    (succeeded : scene.outcome h k .run = .ran (.ok report)) :
    Manned held (scene.after h k .run) := by
  have called := sound.called h k .run
  have trace := sound.slotTrace keeps k .run
  have ends := scene.ran_ends succeeded
  rw [succeeded] at called
  have ran := called.ran_of
  have unhalted : ¬ Halted (scene.outcomes ++ [scene.outcome h k .run]) := by
    rw [halted_concat, succeeded]
    rintro (halts | ⟨-, failed⟩)
    · exact halts
    · exact failed report rfl
  have listed (m : Manager) (active : (scene.after h k .run).startup.activation.active = some m) :
      m.realms ≠ [] ∧ ∀ realm ∈ m.realms, realm ∈ scene.startup.realms := by
    rcases ran.ok_slot trace with ⟨same, -⟩ | ⟨m', filled, -, covers, inhabited⟩
    · exact manned.listed m (same ▸ active)
    · obtain rfl := Option.some.inj (filled.symm.trans active)
      rw [covers]
      exact ⟨inhabited, fun _ => id⟩
  refine ⟨fun unrun => absurd (succeeded ▸ List.mem_concat_self) (unrun (.ok report)),
    called.backed sound.well trace manned.backed, fun m holds put => ?_, fun m active => ?_,
    fun halted => absurd halted unhalted, fun integrated _ m active realm member => ?_⟩
  · rw [called.slot_eq] at put
    rcases ran.ok_slot trace with ⟨same, kept⟩ | ⟨m', filled, full, -, -⟩
    · rcases List.mem_append.mp put with early | late
      · exact same ▸ manned.remembered m (kept ▸ holds) early
      · exact (ran.of_put sound.well trace late).2.2 report rfl
    · exact full.symm.trans holds ▸ filled
  · obtain ⟨inhabited, inside⟩ := listed m active
    exact ⟨inhabited, fun realm member => ran.realms_eq ▸ inside realm member⟩
  · refine Startup.run_runs ends (fun missed => ?_) realm ((listed m active).2 realm member)
    exact integrated _ _ (List.mem_append_right _ missed)

theorem after (manned : Manned held scene) (sound : Sound scene)
    (keeps : KeepsSlot h scene.startup.activation.slot held) (k : Collaborators) (c : Call) :
    Manned held (scene.after h k c) := by
  rcases (sound.called h k c).ran_or_unrun with ⟨unrun, -⟩ | ⟨rfl, result, ran⟩
  · exact manned.after_unrun sound keeps unrun
  · cases result with
    | error failure => exact manned.after_failure sound keeps ran
    | ok report => exact manned.after_success sound keeps ran

end Manned

theorem Operated.manned (operated : Operated h scene)
    (keeps : KeepsSlot h scene.startup.activation.slot held) : Manned held scene := by
  induction operated with
  | start s w untouched =>
    exact ⟨fun _ => untouched.inactive, .of_inactive untouched.inactive, by simp,
      by simp [untouched.inactive], fun halted => absurd halted not_halted_nil,
      by simp [untouched.inactive]⟩
  | configure _ unrun ih => exact (ih keeps).configured unrun
  | @call scene k c operated ih =>
    rw [(operated.sound.called h k c).slot_eq] at keeps
    exact (ih keeps).after operated.sound keeps k c

/-- As long as the integration is there, the realms of a manager that the startup has put into the
slot run just when no run has failed, and no first shutdown was made, since the last run that
succeeded. -/
theorem manager_realms_alive_iff (operated : Operated h scene)
    (keeps : KeepsSlot h scene.startup.activation.slot held) (integrated : Integrated scene.past)
    {m : Manager} (holds : held scene.world = some m)
    (own : ⟨.register scene.startup.activation.slot m, true⟩ ∈ scene.past) :
    (∀ realm ∈ m.realms, Alive scene.past realm) ↔ ¬ Halted scene.outcomes := by
  have manned := operated.manned keeps
  have running := operated.sound.running
  have active := manned.remembered m holds own
  constructor
  · intro alive halted
    obtain ⟨realm, listed⟩ := List.exists_mem_of_ne_nil _ (manned.listed m active).1
    obtain ⟨r, runs, -⟩ := alive_iff.mp (alive realm listed)
    simp [← running, manned.idle halted, Lifecycle.idle] at runs
  · intro unhalted realm listed
    rw [alive_iff, ← running]
    exact Lifecycle.runs_iff.mp (manned.runs integrated unhalted m active realm listed)

end

/-- The slot holds a manager that the startup has put there, and one of its realms does not run. -/
def Scene.Unattended (held : W → Option Manager) (scene : Scene W) : Prop :=
  ∃ m, held scene.world = some m ∧
    ⟨.register scene.startup.activation.slot m, true⟩ ∈ scene.past ∧
    ∃ realm ∈ m.realms, ¬ Alive scene.past realm

namespace Trial

open Rehearsal

def theManager : Manager := ⟨⟨0, 0⟩, [staff, guests]⟩

theorem unhalted_settled : ¬ Halted (settled [staff, guests]).outcomes := by
  change ¬ Halted (_ ++ [_])
  rw [halted_concat]
  rintro (halts | ⟨-, failed⟩)
  · exact halts
  · exact failed _ rfl

/-- After a run that succeeds the manager is there, and both its realms run. -/
theorem settled_attended :
    (settled [staff, guests]).world.slot = some theManager ∧
      ∀ realm ∈ theManager.realms, Alive (settled [staff, guests]).past realm := by
  have integrated : Integrated (settled [staff, guests]).past := fun _ _ => nofun
  have own : ⟨.register theSlot theManager, true⟩ ∈ (settled [staff, guests]).past :=
    List.mem_of_getElem? (i := 3) rfl
  exact ⟨rfl, (manager_realms_alive_iff (reached_settled _).operated (keepsSlot setting _)
    integrated rfl own).mpr unhalted_settled⟩

/-- A realm that cannot start is added and the next run fails, or a shutdown is made: both realms
are stopped, and the manager is in the slot still. -/
theorem settled_unattended :
    let failed := next (next (settled [staff, guests]) (.addRealm nobody)) .run
    let ended := next (settled [staff, guests]) .shutdown
    (Operated setting.surroundings failed ∧ Integrated failed.past ∧
      failed.Unattended Stage.slot) ∧
      Operated setting.surroundings ended ∧ Integrated ended.past ∧
      ended.Unattended Stage.slot := by
  have reached := (reached_settled [staff, guests]).operated
  have still {t : Transcript} (stopped : runningAfter [] t = []) : ¬ Alive t staff := by
    simp [alive_iff, stopped]
  refine ⟨⟨.call _ _ (.call _ _ reached), fun _ _ => nofun, theManager, rfl, ?_, staff, ?_, ?_⟩,
    .call _ _ reached, fun _ _ => nofun, theManager, rfl, ?_, staff, ?_, ?_⟩
  · exact List.mem_of_getElem? (i := 3) rfl
  · exact List.mem_cons_self
  · exact still rfl
  · exact List.mem_of_getElem? (i := 3) rfl
  · exact List.mem_cons_self
  · exact still rfl

end Trial
end GatedStartup
