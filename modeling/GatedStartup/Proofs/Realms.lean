import GatedStartup.Proofs.Transcript
import GatedStartup.Security.Lifecycle

/-! Which realms run after a transcript. What a lifecycle remembers is compared with it. -/
namespace GatedStartup

def Exchange.started? : Event → Option Realm
  | ⟨.startRealm realm, .ok ()⟩ => some realm
  | _ => none

def Exchange.stopped? : Event → Option Realm
  | ⟨.stopRealm realm, _⟩ => some realm
  | _ => none

/-- The realms that were started, in order. A start that fails starts nothing. -/
def startedIn (t : Transcript) : List Realm := t.filterMap Exchange.started?

def stoppedIn (t : Transcript) : List Realm := t.filterMap Exchange.stopped?

def Realm.without (realms : List Realm) (realm : Realm) : List Realm :=
  realms.filter fun r => r.number != realm.number

def Exchange.track (running : List Realm) (e : Event) : List Realm :=
  match e.started?, e.stopped? with
  | some realm, _ => running ++ [realm]
  | none, some realm => Realm.without running realm
  | none, none => running

/-- The realms that run once the exchanges are over: those of `before` and those started since,
less those stopped since they were started. -/
def runningAfter (before : List Realm) (t : Transcript) : List Realm :=
  t.foldl Exchange.track before

variable {t front rest : Transcript} {before : List Realm}

@[simp] theorem startedIn_append : startedIn (front ++ rest) = startedIn front ++ startedIn rest :=
  List.filterMap_append

@[simp] theorem stoppedIn_append : stoppedIn (front ++ rest) = stoppedIn front ++ stoppedIn rest :=
  List.filterMap_append

@[simp] theorem runningAfter_append :
    runningAfter before (front ++ rest) = runningAfter (runningAfter before front) rest :=
  List.foldl_append

section

variable {probe : Ref .probe} {capability : String} {present : Bool}

@[simp] theorem startedIn_probe :
    startedIn (⟨.probe probe capability, present⟩ :: rest) = startedIn rest := rfl

@[simp] theorem stoppedIn_probe :
    stoppedIn (⟨.probe probe capability, present⟩ :: rest) = stoppedIn rest := rfl

@[simp] theorem runningAfter_probe :
    runningAfter before (⟨.probe probe capability, present⟩ :: rest) = runningAfter before rest :=
  rfl

end

/-- Exchanges about other things leave the realms as they are. -/
theorem Exchange.untracked {e : Event} (other : e.question.topic ≠ .realms) :
    e.started? = none ∧ e.stopped? = none := by
  obtain ⟨question, answer⟩ := e
  cases question <;> first | exact ⟨rfl, rfl⟩ | contradiction

theorem realms_spared (before : List Realm) (spares : Spares .realms t) :
    startedIn t = [] ∧ stoppedIn t = [] ∧ runningAfter before t = before := by
  induction t with
  | nil => exact ⟨rfl, rfl, rfl⟩
  | cons e t ih =>
    obtain ⟨other, others⟩ := spares_cons.mp spares
    obtain ⟨start, stop⟩ := Exchange.untracked other
    obtain ⟨none, nothing, same⟩ := ih others
    refine ⟨?_, ?_, ?_⟩
    · simpa [startedIn, start] using none
    · simpa [stoppedIn, stop] using nothing
    · simpa [runningAfter, Exchange.track, start, stop] using same

theorem running_started (starts : ∀ e ∈ t, ∃ realm, e.question = .startRealm realm) :
    stoppedIn t = [] ∧ runningAfter before t = before ++ startedIn t := by
  induction t generalizing before with
  | nil => exact ⟨rfl, (List.append_nil _).symm⟩
  | cons e t ih =>
    obtain ⟨realm, asked⟩ := starts e List.mem_cons_self
    obtain ⟨question, answer⟩ := e
    cases asked
    have later (before : List Realm) := @ih before fun e member =>
      starts e (List.mem_cons_of_mem _ member)
    cases answer with
    | error error => exact later before
    | ok =>
      obtain ⟨none, same⟩ := later (before ++ [realm])
      exact ⟨none, same.trans (List.append_assoc ..)⟩

theorem running_stopped (before : List Realm)
    (stops : ∀ e ∈ t, ∃ realm, e.question = .stopRealm realm) :
    startedIn t = [] ∧ runningAfter before t = (stoppedIn t).foldl Realm.without before := by
  induction t generalizing before with
  | nil => exact ⟨rfl, rfl⟩
  | cons e t ih =>
    obtain ⟨realm, asked⟩ := stops e List.mem_cons_self
    obtain ⟨question, answer⟩ := e
    cases asked
    exact ih _ fun e member => stops e (List.mem_cons_of_mem _ member)

theorem Realm.mem_without_all {realm : Realm} {realms : List Realm}
    (member : realm ∈ realms.foldl Realm.without before) : realm ∈ before ∧ realm ∉ realms := by
  induction realms generalizing before with
  | nil => exact ⟨member, List.not_mem_nil⟩
  | cons first realms ih =>
    obtain ⟨kept, absent⟩ := ih member
    obtain ⟨inside, other⟩ := List.mem_filter.mp kept
    refine ⟨inside, ?_⟩
    rw [List.mem_cons, not_or]
    refine ⟨?_, absent⟩
    rintro rfl
    simp at other

/-- Nothing runs any more once everything that ran is stopped. -/
theorem Realm.without_all {realms : List Realm} (all : ∀ realm ∈ before, realm ∈ realms) :
    realms.foldl Realm.without before = [] := by
  rw [List.eq_nil_iff_forall_not_mem]
  intro realm member
  obtain ⟨inside, absent⟩ := mem_without_all member
  exact absent (all realm inside)

namespace Lifecycle

variable {l l' : Lifecycle} {realms : List Realm} {result : Except ActivationError Unit}

/-- No realm is remembered twice. -/
def Distinct (l : Lifecycle) : Prop := (l.started.map (·.number)).Nodup

end Lifecycle

/-- What starting realms does: a lifecycle remembers what it starts, after what it has started
before. -/
structure Starting (l : Lifecycle) (t : Transcript) (l' : Lifecycle) : Prop where
  asked : ∀ e ∈ t, ∃ realm, e.question = .startRealm realm
  remembered : l'.started = l.started ++ startedIn t
  distinct : l.Distinct → l'.Distinct

/-- What stopping does: all that the lifecycle remembers is stopped, last first. -/
structure Stopping (l : Lifecycle) (t : Transcript) : Prop where
  asked : ∀ e ∈ t, ∃ realm, e.question = .stopRealm realm
  stopped : stoppedIn t = l.started.reverse

theorem Starting.refl (l : Lifecycle) : Starting l [] l :=
  ⟨by simp, (List.append_nil _).symm, id⟩

theorem Starting.spares {l l' : Lifecycle} (starting : Starting l t l') {topic : Topic}
    (other : topic ≠ .realms) : Spares topic t := by
  intro e member
  obtain ⟨realm, asked⟩ := starting.asked e member
  simpa [asked, Request.topic] using other.symm

theorem Stopping.spares {l : Lifecycle} (stopping : Stopping l t) {topic : Topic}
    (other : topic ≠ .realms) : Spares topic t := by
  intro e member
  obtain ⟨realm, asked⟩ := stopping.asked e member
  simpa [asked, Request.topic] using other.symm

theorem Starting.running {l l' : Lifecycle} (starting : Starting l t l') :
    stoppedIn t = [] ∧ runningAfter l.started t = l'.started := by
  rw [starting.remembered]
  exact running_started starting.asked

/-- Nothing that the lifecycle remembers runs any more. -/
theorem Stopping.running {l : Lifecycle} (stopping : Stopping l t) :
    startedIn t = [] ∧ runningAfter l.started t = [] := by
  obtain ⟨none, after⟩ := running_stopped l.started stopping.asked
  rw [stopping.stopped] at after
  exact ⟨none, after.trans (Realm.without_all fun realm member => List.mem_reverse.mpr member)⟩

namespace Lifecycle

variable {l l' : Lifecycle} {realms : List Realm} {result : Except ActivationError Unit}

theorem start_ends (ends : (l.start realms).Ends t (result, l')) : Starting l t l' := by
  induction realms generalizing l t with
  | nil =>
    obtain ⟨rfl, rfl, rfl⟩ := by simpa [start] using ends
    exact .refl l'
  | cons realm rest ih =>
    rw [start] at ends
    split at ends
    · exact ih ends
    · next fresh =>
      obtain ⟨answer, later, rfl, last⟩ := ends_ask_bind.mp ends
      cases answer with
      | error error =>
        obtain ⟨rfl, rfl, rfl⟩ := by simpa using last
        exact ⟨by simp, (List.append_nil _).symm, id⟩
      | ok =>
        have tail := ih last
        have absent : ∀ r ∈ l.started, r.number ≠ realm.number := by simpa [runs] using fresh
        refine ⟨?_, tail.remembered.trans (List.append_assoc ..), fun before => tail.distinct ?_⟩
        · exact List.forall_mem_cons.mpr ⟨⟨realm, rfl⟩, tail.asked⟩
        · simpa [Distinct, List.nodup_append] using ⟨before, absent⟩

theorem stopEach_ends (ends : (stopEach realms).Ends t ()) :
    (∀ e ∈ t, ∃ realm, e.question = .stopRealm realm) ∧ stoppedIn t = realms := by
  induction realms generalizing t with
  | nil =>
    obtain ⟨rfl, -⟩ := by simpa [stopEach] using ends
    simp [stoppedIn]
  | cons realm rest ih =>
    obtain ⟨_, later, rfl, last⟩ := ends_ask_bind.mp ends
    obtain ⟨stops, all⟩ := ih last
    exact ⟨List.forall_mem_cons.mpr ⟨⟨realm, rfl⟩, stops⟩, congrArg (realm :: ·) all⟩

theorem stop_ends (ends : l.stop.Ends t l') : l' = .idle ∧ Stopping l t := by
  obtain ⟨front, _, rest, rfl, stops, last⟩ := Program.ends_bind.mp ends
  obtain ⟨rfl, rfl⟩ := Program.ends_pure.mp last
  obtain ⟨only, all⟩ := stopEach_ends stops
  exact ⟨rfl, by simpa using only, by simpa using all⟩

end Lifecycle
end GatedStartup
