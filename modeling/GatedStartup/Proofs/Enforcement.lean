import GatedStartup.Proofs.LiveRealms

/-! What stands when indexes are worked on. A run looks for no index before its realms are started
and its manager is enforced, and looks for none at all if that fails. The manager may be that of an
earlier run: it is remembered only as long as it is in the slot and enforced. -/
namespace GatedStartup

open Lookup Index

/-- The manager was put into the slot, and enforced at once. Nothing about the manager was asked
since. -/
def Enforced (slot : Ref .slot) (switch : Ref .switch) (m : Manager) (t : Transcript) : Prop :=
  ∃ front rest, t = front ++ ⟨.register slot m, true⟩ :: ⟨.enforce switch, true⟩ :: rest ∧
    Spares .manager rest

/-- What an activation remembers is enforced. -/
def Activation.Standing (a : Activation) (t : Transcript) : Prop :=
  ∀ m, a.active = some m → Enforced a.slot a.switch m t

section

variable {a a' : Activation} {realms : List Realm} {past t rest : Transcript}
  {result : Except ActivationError (Option Manager)}

theorem Enforced.extend {slot : Ref .slot} {switch : Ref .switch} {m : Manager}
    (enforced : Enforced slot switch m past) (quiet : Spares .manager rest) :
    Enforced slot switch m (past ++ rest) := by
  obtain ⟨front, since, rfl, silent⟩ := enforced
  exact ⟨front, since ++ rest, by simp, spares_append.mpr ⟨silent, quiet⟩⟩

namespace Activation.Standing

theorem extend (standing : a.Standing past) (quiet : Spares .manager rest) :
    a.Standing (past ++ rest) := fun m active => (standing m active).extend quiet

theorem of_inactive (inactive : a.active = none) : a.Standing past := by
  simp [Standing, inactive]

theorem activated (standing : a.Standing past) (activated : Activated a realms t result a') :
    a'.Standing (past ++ t) := by
  cases activated with
  | again | needless => simpa using standing
  | taken inactive | refused inactive => exact .of_inactive inactive
  | enforced =>
    intro m active
    obtain rfl : a.next realms = m := by simpa using active
    exact ⟨past, [], rfl, spares_nil⟩

end Activation.Standing

theorem Activated.switch_eq (activated : Activated a realms t result a') :
    a'.switch = a.switch := by
  cases activated <;> rfl

/-- Where there are realms an activation that succeeds leaves a manager. -/
theorem Activated.active_of_realms {manager : Option Manager}
    (activated : Activated a realms t (.ok manager) a') (configured : realms ≠ []) :
    ∃ m, a'.active = some m := by
  cases activated with
  | again active => exact ⟨_, active⟩
  | needless _ vacant => exact absurd vacant configured
  | enforced => exact ⟨_, rfl⟩

end

namespace Secured

variable {s s' : Startup} {past t : Transcript}
  {result : Except ActivationError (Option Manager)}

theorem standing (secured : Secured s t result s') (before : s.activation.Standing past) :
    s'.activation.Standing (past ++ t) := by
  cases secured with
  | unstarted starting => exact before.extend (starting.spares (by decide))
  | started starting activated =>
    rw [← List.append_assoc]
    exact (before.extend (starting.spares (by decide))).activated activated

theorem switch_eq (secured : Secured s t result s') :
    s'.activation.switch = s.activation.switch := by
  cases secured with
  | unstarted _ => rfl
  | started _ activated => exact activated.switch_eq

theorem active_of_realms {manager : Option Manager} (secured : Secured s t (.ok manager) s')
    (configured : s.realms ≠ []) : ∃ m, s'.activation.active = some m := by
  cases secured with
  | started _ activated => exact activated.active_of_realms configured

end Secured

namespace Ran

variable {s s' : Startup} {past t front rest : Transcript} {e : Event}
  {result : Except Failure Startup.Report}

theorem standing (ran : Ran s t result s') (well : WellNamed s.catalogue.entries)
    (before : s.activation.Standing past) : s'.activation.Standing (past ++ t) := by
  have probed (present : Bool) : s.activation.Standing
      (past ++ [⟨.probe s.gate.probe s.gate.capability, present⟩]) :=
    before.extend (by simp [Request.topic])
  cases ran with
  | @unsecured _ _ _ _ present secured stopping =>
    have whole := (secured.standing (probed present)).extend (stopping.spares (by decide))
    simpa using whole
  | rolledBack secured each back =>
    obtain ⟨_, _, _, rfl, -, -, deactivated, -, -⟩ := back.parts (ensured_well secured each well)
    exact .of_inactive deactivated.inactive
  | @succeeded _ _ _ _ _ _ present secured each =>
    have whole := (secured.standing (probed present)).extend (each.spares (by decide))
    simpa using whole

/-- What is asked about indexes is asked once security is settled, and before anything is taken
back. -/
theorem secured_of_search (ran : Ran s t result s') (well : WellNamed s.catalogue.entries)
    (split : t = front ++ e :: rest) (search : e.question.topic = .search) :
    ∃ present secures manager s₁ between, Secured s secures (.ok manager) s₁ ∧
      front = ⟨.probe s.gate.probe s.gate.capability, present⟩ :: (secures ++ between) ∧
      Spares .manager between := by
  have elsewhere {t : Transcript} (spares : Spares .search t) : e ∉ t := fun member =>
    spares e member search
  have beforehand {present : Bool} {secures : Transcript} {s₁ : Startup}
      {activated : Except ActivationError (Option Manager)} (secured : Secured s secures activated s₁) :
      e ∉ ⟨.probe s.gate.probe s.gate.capability, present⟩ :: secures :=
    elsewhere (spares_cons.mpr ⟨by simp [Request.topic], secured.spares_search⟩)
  cases ran with
  | unsecured secured stopping =>
    rw [← List.cons_append] at split
    obtain ⟨between, -, inside⟩ := Lists.append_eq_append_cons_of_not_mem (beforehand secured) split
    exact absurd (by simp [inside]) (elsewhere (stopping.spares (by decide)))
  | succeeded secured each =>
    rw [← List.cons_append] at split
    obtain ⟨between, rfl, inside⟩ := Lists.append_eq_append_cons_of_not_mem (beforehand secured) split
    have quiet : Spares .manager _ := each.spares (by decide)
    rw [inside] at quiet
    exact ⟨_, _, _, _, between, secured, rfl, (spares_append.mp quiet).1⟩
  | rolledBack secured each back =>
    obtain ⟨destroying, withdrawal, stops, rfl, -, silent, deactivated, stopping, -⟩ :=
      back.parts (ensured_well secured each well)
    rw [← List.cons_append] at split
    obtain ⟨between, rfl, inside⟩ := Lists.append_eq_append_cons_of_not_mem (beforehand secured) split
    refine ⟨_, _, _, _, between, secured, rfl, ?_⟩
    rw [← List.append_assoc] at inside
    rcases Lists.append_eq_append_cons inside with ⟨_, -, late⟩ | ⟨_, early, -⟩
    · refine absurd ?_ (elsewhere (t := withdrawal ++ stops) ?_)
      · simp [late]
      · exact spares_append.mpr
          ⟨deactivated.spares (by decide) (by decide), stopping.spares (by decide)⟩
    · have ensures : Spares .manager _ := each.spares (by decide)
      have quiet := spares_append.mpr ⟨ensures, silent⟩
      rw [early] at quiet
      exact (spares_append.mp quiet).1

end Ran

namespace Called

variable {s s' : Startup} {c : Call} {past t : Transcript} {outcome : Call.Outcome}

theorem standing (called : Called s c t outcome s') (well : WellNamed s.catalogue.entries)
    (before : s.activation.Standing past) : s'.activation.Standing (past ++ t) := by
  by_cases runs : c = .run
  · subst runs
    cases called with
    | ran ran => exact ran.standing well before
  · obtain ⟨quiet, same⟩ := called.unmanaged well runs
    exact same ▸ before.extend quiet

end Called

/-- All along a history, what the activation remembers is enforced. -/
theorem Operated.standing {h : Surroundings W} {scene : Scene W} (operated : Operated h scene) :
    scene.startup.activation.Standing scene.past := by
  induction operated with
  | start s w untouched => exact .of_inactive untouched.inactive
  | configure _ _ ih => exact ih
  | call k c operated ih => exact (operated.sound.called _ k c).standing operated.sound.well ih

/-- The exchange keeps a run from securing the realms. -/
def Exchange.thwarts : Event → Bool
  | ⟨.startRealm _, .error _⟩ | ⟨.register _ _, false⟩ | ⟨.enforce _, false⟩ => true
  | _ => false

section

variable {t : Transcript}

theorem Exchange.thwarts_eq_false {e : Event} (realms : e.question.topic ≠ .realms)
    (manager : e.question.topic ≠ .manager) : e.thwarts = false := by
  obtain ⟨question, answer⟩ := e
  cases question <;> first | rfl | contradiction

theorem Spares.unthwarted (realms : Spares .realms t) (manager : Spares .manager t) :
    t.any Exchange.thwarts = false := by
  rw [List.any_eq_false]
  intro e member
  simp [Exchange.thwarts_eq_false (realms e member) (manager e member)]

theorem Stopping.unthwarted {l : Lifecycle} (stopping : Stopping l t) :
    t.any Exchange.thwarts = false := by
  rw [List.any_eq_false]
  intro e member
  obtain ⟨question, answer⟩ := e
  obtain ⟨realm, rfl⟩ := stopping.asked _ member
  simp [Exchange.thwarts]

theorem Deactivated.unthwarted {a a' : Activation} (deactivated : Deactivated a t a') :
    t.any Exchange.thwarts = false := by
  cases deactivated <;> rfl

theorem Activated.thwarted {a a' : Activation} {realms : List Realm}
    {result : Except ActivationError (Option Manager)} (activated : Activated a realms t result a') :
    t.any Exchange.thwarts = !result.isOk := by
  cases activated <;> rfl

theorem RolledBack.unthwarted {s s' : Startup} (back : RolledBack s t s')
    (well : WellNamed s.catalogue.entries) : t.any Exchange.thwarts = false := by
  obtain ⟨front, withdrawal, stops, rfl, realms, manager, deactivated, stopping, -⟩ :=
    back.parts well
  simp [List.any_append, realms.unthwarted manager, deactivated.unthwarted, stopping.unthwarted]

theorem Lifecycle.start_thwarted {l l' : Lifecycle} {realms : List Realm}
    {result : Except ActivationError Unit} (ends : (l.start realms).Ends t (result, l')) :
    t.any Exchange.thwarts = !result.isOk := by
  induction realms generalizing l t with
  | nil =>
    obtain ⟨rfl, rfl, rfl⟩ := by simpa [start] using ends
    rfl
  | cons realm rest ih =>
    rw [start] at ends
    split at ends
    · exact ih ends
    · obtain ⟨answer, later, rfl, last⟩ := ends_ask_bind.mp ends
      cases answer with
      | error error =>
        obtain ⟨rfl, rfl, rfl⟩ := by simpa using last
        rfl
      | ok =>
        have tail := ih last
        simpa [Exchange.thwarts] using tail

namespace Startup

variable {s s' : Startup} {k : Collaborators}

theorem secure_thwarted {gates : Gates} {result : Except ActivationError (Option Manager)}
    (ends : (s.secure gates).Ends t (result, s')) : t.any Exchange.thwarts = !result.isOk := by
  obtain ⟨front, ⟨started, s₁⟩, rest, rfl, starts, activation⟩ := Program.ends_bind.mp ends
  have starting : front.any Exchange.thwarts = !started.isOk := by
    rw [startRealms] at starts
    split at starts
    · obtain ⟨_, ⟨_, l⟩, _, rfl, starting, done⟩ := Program.ends_bind.mp starts
      obtain ⟨rfl, rfl, rfl⟩ := by simpa using done
      simpa using Lifecycle.start_thwarted starting
    · obtain ⟨rfl, rfl, rfl⟩ := by simpa using starts
      rfl
  rw [List.any_append, starting]
  cases started with
  | error error =>
    obtain ⟨rfl, rfl, rfl⟩ := by simpa using activation
    rfl
  | ok =>
    obtain ⟨_, ⟨activated, a⟩, _, rfl, activates, done⟩ := Program.ends_bind.mp activation
    obtain ⟨rfl, rfl, rfl⟩ := by simpa using done
    have activating := (Activation.activate_ends activates).thwarted
    simpa [Except.isOk, Except.toBool] using activating

/-- A run fails in activation just when a realm does not start, or the manager is not registered or
not enforced. -/
theorem run_thwarted {result : Except Failure Report} (well : WellNamed s.catalogue.entries)
    (ends : (s.run k).Ends t (result, s')) :
    t.any Exchange.thwarts = true ↔ ∃ error, result = .error (.activation error) := by
  obtain ⟨front, gates, rest, rfl, looked, secured⟩ := Program.ends_bind.mp ends
  obtain ⟨present, _, rfl, done⟩ := ends_ask_bind.mp looked
  obtain ⟨rfl, rfl⟩ := by simpa using done
  obtain ⟨secures, ⟨activated, s₁⟩, rest, rfl, securing, after⟩ := Program.ends_bind.mp secured
  have thwarted := secure_thwarted securing
  cases activated with
  | error error =>
    obtain ⟨stops, s₂, rest, rfl, stopped, last⟩ := Program.ends_bind.mp after
    obtain ⟨rfl, rfl, rfl⟩ := by simpa using last
    have failed : secures.any Exchange.thwarts = true := thwarted
    exact ⟨fun _ => ⟨error, rfl⟩, fun _ => by simp [List.any_append, failed]⟩
  | ok manager =>
    have unthwarted : secures.any Exchange.thwarts = false := thwarted
    have early := secure_ends securing
    obtain ⟨searches, ⟨ensured, c⟩, rest, rfl, ensures, finish⟩ := Program.ends_bind.mp after
    have each := Catalogue.ensureAll_ends (early.catalogue_eq ▸ well) ensures
    have searching : searches.any Exchange.thwarts = false :=
      (each.spares (by decide)).unthwarted (each.spares (by decide))
    have probed : Exchange.thwarts ⟨.probe s.gate.probe s.gate.capability, present⟩ = false := rfl
    cases ensured with
    | error failure =>
      obtain ⟨undoing, s₂, rest, rfl, undone, last⟩ := Program.ends_bind.mp finish
      obtain ⟨rfl, rfl, rfl⟩ := by simpa using last
      have undoing := (rollback_ends undone).unthwarted (Ran.ensured_well early each well)
      have other : ∀ error, failure ≠ .activation error := by
        rintro error rfl
        exact each.not_inActivation rfl trivial
      simp [List.any_append, unthwarted, searching, undoing, probed, other]
    | ok handles =>
      obtain ⟨rfl, rfl, rfl⟩ := by simpa using finish
      simp [List.any_append, unthwarted, searching, probed]

end Startup
end
/-- The exchanges of questions that were put in these states. -/
def exchanged (h : Surroundings W) (asked : List (Request × W)) : Transcript :=
  asked.map fun moment => ⟨moment.1, (h moment.1 moment.2).1⟩

/-- What the slot holds when a question is put, by what was asked before. -/
theorem KeepsSlot.trace_until {h : Surroundings W} {slot : Ref .slot} {held : W → Option Manager}
    (keeps : KeepsSlot h slot held) {p : Work α} {w v : W} {request : Request}
    {front rest : List (Request × W)} (only : OnlySlot slot (p.events h w))
    (split : p.questions h w = front ++ (request, v) :: rest) :
    SlotTrace slot (held w) (exchanged h front) (held v) := by
  induction p generalizing w front with
  | done value => simp [Program.questions] at split
  | ask question next ih =>
    obtain ⟨about, later⟩ := List.forall_mem_cons.mp only
    cases front with
    | nil =>
      obtain ⟨-, rfl⟩ : question = request ∧ w = v := by simpa using (List.cons.inj split).1
      exact .nil
    | cons first front =>
      obtain ⟨rfl, onward⟩ := List.cons.inj split
      exact keeps.exchange about w (ih _ later onward)

/-- In a run security comes first: whatever is asked about indexes is asked while a manager of the
startup is in the slot and enforced, and nothing is when a realm does not start or no manager is
registered and enforced. -/
structure SecuredFirst (h : Surroundings W) (k : Collaborators) (held : W → Option Manager)
    (scene : Scene W) : Prop where
  guarded : ∀ front request w rest,
    (scene.startup.run k).questions h scene.world = front ++ (request, w) :: rest →
    request.topic = .search → scene.startup.realms ≠ [] →
    ∃ m, held w = some m ∧ Enforced scene.startup.activation.slot scene.startup.activation.switch m
      (scene.past ++ exchanged h front)
  reported : (scene.asked h k .run).any Exchange.thwarts = true ↔
    ∃ error, scene.outcome h k .run = .ran (.error (.activation error))
  spared : (scene.asked h k .run).any Exchange.thwarts = true → Spares .search (scene.asked h k .run)

theorem run_secured_first {h : Surroundings W} {held : W → Option Manager} {scene : Scene W}
    (operated : Operated h scene) (keeps : KeepsSlot h scene.startup.activation.slot held)
    (k : Collaborators) : SecuredFirst h k held scene := by
  have well := operated.sound.well
  have ends := Program.ends_events h (scene.startup.run k) scene.world
  have ran := Startup.run_ends well ends
  have thwarted := Startup.run_thwarted well ends
  refine ⟨fun front request w rest split search configured => ?_, ?_, fun failed => ?_⟩
  · have events : (scene.startup.run k).events h scene.world =
        exchanged h front ++ ⟨request, (h request w).1⟩ :: exchanged h rest := by
      rw [Program.events, split, List.map_append]
      rfl
    have trace := keeps.trace_until (ran.onlySlot well) split
    obtain ⟨present, secures, manager, s₁, between, secured, before, quiet⟩ :=
      ran.secured_of_search well events search
    obtain ⟨m, active⟩ := secured.active_of_realms configured
    rw [before, SlotTrace.at_other rfl, SlotTrace.append_spared quiet] at trace
    have holds := secured.backed trace (operated.manned keeps).backed m active
    have probed : scene.startup.activation.Standing (scene.past ++
        [⟨.probe scene.startup.gate.probe scene.startup.gate.capability, present⟩]) :=
      operated.standing.extend (by simp [Request.topic])
    have enforced := ((secured.standing probed).extend quiet) m active
    rw [secured.slot_eq, secured.switch_eq] at enforced
    exact ⟨m, holds, by simpa [before] using enforced⟩
  · rw [scene.asked_run, scene.outcome_run, thwarted]
    simp
  · rw [scene.asked_run] at failed ⊢
    obtain ⟨error, activation⟩ := thwarted.mp failed
    rw [activation] at ran
    exact ((ran.failed_entries well).1 trivial).2

namespace Trial

open Rehearsal

/-- A run has bound the index and failed over one without a region, so the manager is withdrawn and
the index gone. The next run registers and enforces the manager again before it looks for the index
and tries to create it. -/
theorem undone_secured_first :
    let scene := next (next (registered [staff, guests] "orders") (.register "shop" astray)) .run
    scene.world.slot = none ∧
      (scene.asked setting.surroundings collaborators .run).map (·.question.topic) =
        [.capability, .realms, .realms, .manager, .manager, .search, .search, .manager,
          .manager, .log, .realms, .realms] ∧
      SecuredFirst setting.surroundings collaborators Stage.slot scene :=
  ⟨rfl, rfl, run_secured_first (.call _ _ (.call _ _ (reached_registered _ _).operated))
    (keepsSlot setting _) _⟩

end Trial
end GatedStartup
