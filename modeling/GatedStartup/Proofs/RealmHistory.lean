import GatedStartup.Proofs.LiveRealms
import Mathlib.Data.List.DropRight
import Mathlib.Data.Set.Card

/-! A lifecycle over its whole history. It is told to start sets of realms, which may overlap and
hold a realm more than once, and to stop what runs, in any order and number, and any start may
fail. Seen from one realm, starts and stops take turns. -/
namespace GatedStartup

/-- A start that succeeds. -/
def Exchange.begun (realm : Realm) : Event := ⟨.startRealm realm, .ok ()⟩

def Exchange.ended (realm : Realm) : Event := ⟨.stopRealm realm, ()⟩

/-- Whether the realm of that number is started or stopped. A start that fails is neither. -/
def Exchange.mark? (number : Nat) (e : Event) : Option Bool :=
  match e.started?, e.stopped? with
  | some realm, _ => if realm.number = number then some true else none
  | none, some realm => if realm.number = number then some false else none
  | none, none => none

/-- The starts and stops of a realm, in order. -/
def marks (number : Nat) (t : Transcript) : List Bool := t.filterMap (Exchange.mark? number)

def timesStarted (number : Nat) (t : Transcript) : Nat := (marks number t).count true

def timesStopped (number : Nat) (t : Transcript) : Nat := (marks number t).count false

def Realm.among (realms : List Realm) (number : Nat) : Bool :=
  realms.any fun realm => realm.number == number

namespace Realm

variable {realms : List Realm} {realm : Realm} {number : Nat}

theorem among_iff : among realms number = true ↔ ∃ realm ∈ realms, realm.number = number := by
  simp [among]

@[simp] theorem among_concat :
    among (realms ++ [realm]) number = (among realms number || realm.number == number) := by
  simp [among]

@[simp] theorem among_without :
    among (without realms realm) number = (among realms number && number != realm.number) := by
  rw [Bool.eq_iff_iff, Bool.and_eq_true, among_iff, among_iff, bne_iff_ne]
  constructor
  · rintro ⟨r, inside, rfl⟩
    obtain ⟨there, other⟩ := List.mem_filter.mp inside
    exact ⟨⟨r, there, rfl⟩, bne_iff_ne.mp other⟩
  · rintro ⟨⟨r, there, rfl⟩, other⟩
    exact ⟨r, List.mem_filter.mpr ⟨there, bne_iff_ne.mpr other⟩, rfl⟩

end Realm

section

variable {e : Event} {t : Transcript} {number : Nat}

theorem marks_cons_none (unmarked : e.mark? number = none) :
    marks number (e :: t) = marks number t :=
  List.filterMap_cons_none unmarked

theorem marks_cons_some {up : Bool} (marked : e.mark? number = some up) :
    marks number (e :: t) = up :: marks number t :=
  List.filterMap_cons_some marked

end

/-- Only realms that do not run are started, and only realms that run are stopped. -/
def InTurn : List Realm → Transcript → Prop
  | _, [] => True
  | running, e :: t =>
    (∀ realm, e.question = .startRealm realm → Realm.among running realm.number = false) ∧
      (∀ realm, e.question = .stopRealm realm → Realm.among running realm.number = true) ∧
      InTurn (e.track running) t

section

variable {running : List Realm} {t front rest : Transcript} {number : Nat}

theorem inTurn_append :
    InTurn running (front ++ rest) ↔
      InTurn running front ∧ InTurn (runningAfter running front) rest := by
  induction front generalizing running with
  | nil => simp [InTurn, runningAfter]
  | cons e front ih =>
    simp only [List.cons_append, InTurn, ih, and_assoc]
    rfl

theorem InTurn.of_start {realm : Realm} {answer : Except AuthError Unit}
    (inTurn : InTurn running (front ++ ⟨.startRealm realm, answer⟩ :: rest)) :
    Realm.among (runningAfter running front) realm.number = false :=
  (inTurn_append.mp inTurn).2.1 realm rfl

/-- What is marked as started did not run and runs now, and what is marked as stopped the other
way round. -/
theorem Exchange.among_track {e : Event} (number : Nat) (inTurn : InTurn running [e]) :
    match e.mark? number with
    | none => Realm.among (e.track running) number = Realm.among running number
    | some up => Realm.among running number = !up ∧ Realm.among (e.track running) number = up := by
  obtain ⟨free, runs, -⟩ := inTurn
  obtain ⟨question, answer⟩ := e
  cases question with
  | startRealm realm =>
    cases answer with
    | error => rfl
    | ok =>
      have free := free realm rfl
      by_cases same : realm.number = number
      · subst same
        simp [mark?, started?, track, free]
      · simp [mark?, started?, track, same]
  | stopRealm realm =>
    have runs := runs realm rfl
    by_cases same : realm.number = number
    · subst same
      simp [mark?, started?, stopped?, track, runs]
    · simp [mark?, started?, stopped?, track, same, Ne.symm same]
  | _ => rfl

/-- Starts and stops of a realm take turns, and the last of them tells whether it runs. -/
theorem InTurn.isChain_marks (inTurn : InTurn running t) (number : Nat) :
    (Realm.among running number :: marks number t).IsChain (· ≠ ·) ∧
      Realm.among (runningAfter running t) number =
        (marks number t).getLastD (Realm.among running number) := by
  induction t generalizing running with
  | nil => exact ⟨.singleton _, rfl⟩
  | cons e t ih =>
    obtain ⟨free, runs, later⟩ := inTurn
    obtain ⟨chain, last⟩ := ih later
    have step := Exchange.among_track (e := e) number ⟨free, runs, trivial⟩
    change _ ∧ Realm.among (runningAfter (e.track running) t) number = _
    cases marked : e.mark? number with
    | none =>
      simp only [marked] at step
      rw [step] at chain last
      rw [marks_cons_none marked]
      exact ⟨chain, last⟩
    | some up =>
      simp only [marked] at step
      obtain ⟨before, after⟩ := step
      rw [after] at chain last
      rw [marks_cons_some marked, List.getLastD_cons, before]
      exact ⟨List.isChain_cons_cons.mpr ⟨by simp, chain⟩, last⟩

end

section

variable {t : Transcript}

/-- A realm runs when it was started once more than it was stopped. -/
theorem InTurn.timesStarted_eq (inTurn : InTurn [] t) (number : Nat) :
    timesStarted number t =
      timesStopped number t + (Realm.among (runningAfter [] t) number).toNat := by
  obtain ⟨chain, last⟩ := inTurn.isChain_marks number
  rw [last]
  simpa [timesStarted, timesStopped, Realm.among] using Lists.count_of_isChain chain

/-- As many realms run as were started once more than they were stopped. -/
theorem InTurn.length_eq_encard (inTurn : InTurn [] t)
    (distinct : ((runningAfter [] t).map (·.number)).Nodup) :
    ((runningAfter [] t).length : ℕ∞) =
      {number | timesStarted number t = timesStopped number t + 1}.encard := by
  have running : {number | timesStarted number t = timesStopped number t + 1} =
      (((runningAfter [] t).map (·.number)).toFinset : Set Nat) := by
    ext number
    rw [Set.mem_ofPred_eq, inTurn.timesStarted_eq number, Finset.mem_coe, List.mem_toFinset,
      List.mem_map, ← Realm.among_iff]
    cases Realm.among (runningAfter [] t) number <;> simp
  rw [running, Set.encard_coe_eq_coe_finsetCard, List.toFinset_card_of_nodup distinct,
    List.length_map]

end

namespace Lifecycle

/-- All that starting realms can do. Those that do not run yet are started in order. A failure ends
it and is named after its realm, and what was started by then stays. -/
inductive Began (l : Lifecycle) (realms : List Realm) (l' : Lifecycle) :
    Transcript → Except ActivationError Unit → Prop where
  | all (begun : List Realm) : l'.started = l.started ++ begun → begun.Sublist realms →
      (∀ realm ∈ realms, l'.runs realm) → Began l realms l' (begun.map .begun) (.ok ())
  | failed (before begun : List Realm) : realms = before ++ realm :: after →
      l'.started = l.started ++ begun → begun.Sublist before →
      (∀ realm ∈ before, l'.runs realm) → l'.runs realm = false →
      Began l realms l' (begun.map .begun ++ [⟨.startRealm realm, .error cause⟩])
        (.error (.realmStart realm.name cause.message))

section

variable {l l' : Lifecycle} {realms : List Realm} {t : Transcript}

/-- A realm that runs already is passed over. -/
theorem Began.skip {realm : Realm} {result : Except ActivationError Unit}
    (began : Began l realms l' t result) (running : l.runs realm) :
    Began l (realm :: realms) l' t result := by
  cases began with
  | all begun kept sublist all =>
    exact .all begun kept (sublist.cons _) (List.forall_mem_cons.mpr ⟨runs_mono kept running, all⟩)
  | failed before begun split kept sublist all fresh =>
    subst split
    exact .failed (realm :: before) begun rfl kept (sublist.cons _)
      (List.forall_mem_cons.mpr ⟨runs_mono kept running, all⟩) fresh

theorem Began.begin {realm : Realm} {result : Except ActivationError Unit}
    (began : Began ⟨l.started ++ [realm]⟩ realms l' t result) :
    Began l (realm :: realms) l' (.begun realm :: t) result := by
  have first : (⟨l.started ++ [realm]⟩ : Lifecycle).runs realm := by simp [runs]
  cases began with
  | all begun kept sublist all =>
    exact .all (realm :: begun) (by simpa using kept) (sublist.cons_cons _)
      (List.forall_mem_cons.mpr ⟨runs_mono kept first, all⟩)
  | failed before begun split kept sublist all fresh =>
    subst split
    exact .failed (realm :: before) (realm :: begun) rfl (by simpa using kept)
      (sublist.cons_cons _) (List.forall_mem_cons.mpr ⟨runs_mono kept first, all⟩) fresh

theorem start_began {result : Except ActivationError Unit}
    (ends : (l.start realms).Ends t (result, l')) :
    Began l realms l' t result ∧ InTurn l.started t := by
  induction realms generalizing l t with
  | nil =>
    obtain ⟨rfl, rfl, rfl⟩ := by simpa [start] using ends
    exact ⟨.all [] (by simp) (.refl _) (by simp), trivial⟩
  | cons realm rest ih =>
    rw [start] at ends
    split at ends
    · next running =>
      obtain ⟨began, inTurn⟩ := ih ends
      exact ⟨began.skip running, inTurn⟩
    · next fresh =>
      have fresh : l.runs realm = false := by simpa using fresh
      obtain ⟨answer, later, rfl, last⟩ := ends_ask_bind.mp ends
      cases answer with
      | error cause =>
        obtain ⟨rfl, rfl, rfl⟩ := by simpa using last
        refine ⟨.failed [] [] rfl (by simp) (.refl _) (by simp) fresh, ?_⟩
        exact ⟨fun r same => by cases same; exact fresh, by simp, trivial⟩
      | ok =>
        obtain ⟨began, inTurn⟩ := ih last
        exact ⟨began.begin, fun r same => by cases same; exact fresh, by simp, inTurn⟩

/-- What is stopped ran, as long as nothing is to be stopped twice. -/
theorem inTurn_ended {running stopped : List Realm} (ran : ∀ realm ∈ stopped, realm ∈ running)
    (distinct : (stopped.map (·.number)).Nodup) : InTurn running (stopped.map .ended) := by
  induction stopped generalizing running with
  | nil => trivial
  | cons realm rest ih =>
    obtain ⟨first, later⟩ := List.forall_mem_cons.mp ran
    obtain ⟨apart, distinct⟩ := List.nodup_cons.mp distinct
    refine ⟨by simp [Exchange.ended], fun r same => ?_, ih (fun r member => ?_) distinct⟩
    · cases same
      exact Realm.among_iff.mpr ⟨realm, first, rfl⟩
    · refine List.mem_filter.mpr ⟨later r member, bne_iff_ne.mpr fun same => apart ?_⟩
      exact List.mem_map.mpr ⟨r, member, same⟩

theorem stopEach_eq {result : Unit} (ends : (stopEach realms).Ends t result) :
    t = realms.map .ended := by
  induction realms generalizing t with
  | nil =>
    obtain ⟨rfl, -⟩ := by simpa [stopEach] using ends
    rfl
  | cons realm rest ih =>
    obtain ⟨_, later, rfl, last⟩ := ends_ask_bind.mp ends
    rw [ih last]
    rfl

theorem stop_eq (ends : l.stop.Ends t l') :
    l' = .idle ∧ t = l.started.reverse.map .ended := by
  obtain ⟨front, _, rest, rfl, stops, last⟩ := Program.ends_bind.mp ends
  obtain ⟨rfl, rfl⟩ := Program.ends_pure.mp last
  exact ⟨rfl, by simpa using stopEach_eq stops⟩

theorem Began.started_eq {result : Except ActivationError Unit}
    (began : Began l realms l' t result) : l'.started = l.started ++ startedIn t := by
  have begun_only (begun : List Realm) : startedIn (begun.map .begun) = begun := by
    simp [startedIn, List.filterMap_map, Function.comp_def, Exchange.started?, Exchange.begun]
  cases began with
  | all _ kept => rw [kept, begun_only]
  | failed _ _ _ kept =>
    rw [kept, startedIn_append, begun_only]
    simp [startedIn, Exchange.started?]

end

inductive Call where
  | start (realms : List Realm)
  | stop

inductive Outcome where
  | started (result : Except ActivationError Unit)
  | stopped

def call (l : Lifecycle) : Call → Work (Outcome × Lifecycle)
  | .start realms => do
    let (result, l') ← l.start realms
    pure (.started result, l')
  | .stop => do
    let l' ← l.stop
    pure (.stopped, l')

/-- A call, with all that was asked in it and the lifecycle before and after. -/
structure Turn where
  before : Lifecycle
  call : Call
  asked : Transcript
  outcome : Outcome
  after : Lifecycle

/-- The calls made so far. -/
inductive Lived : Lifecycle → List Turn → Lifecycle → Prop where
  | nil : Lived l [] l
  | cons {c : Call} : (l.call c).Ends t (outcome, l') → Lived l' turns last →
      Lived l (⟨l, c, t, outcome, l'⟩ :: turns) last

def past (turns : List Turn) : Transcript := turns.flatMap Turn.asked

def Turn.starts (turn : Turn) : Bool :=
  match turn.call with
  | .start _ => true
  | .stop => false

/-- The realms started since the last stop, or since the beginning, in order. -/
def startedSince (turns : List Turn) : List Realm := startedIn (past (turns.rtakeWhile Turn.starts))

/-- All that a call can do. -/
inductive Answered (l : Lifecycle) : Call → Transcript → Outcome → Lifecycle → Prop where
  | started {realms : List Realm} {result : Except ActivationError Unit} :
      Began l realms l' t result → Answered l (.start realms) t (.started result) l'
  | stopped : Answered l .stop (l.started.reverse.map .ended) .stopped .idle

/-- What holds of a lifecycle that is told to start and to stop, whatever the realms answer. -/
structure Disciplined (turns : List Turn) (l : Lifecycle) : Prop where
  /-- Starts and stops of a realm take turns, as if it had been stopped before all. -/
  alternate : ∀ number, (false :: marks number (past turns)).IsChain (· ≠ ·)
  /-- No realm is told to start while it runs. -/
  unstarted : ∀ front realm answer rest,
    past turns = front ++ ⟨.startRealm realm, answer⟩ :: rest → ¬ Alive front realm
  began : ∀ turn ∈ turns, ∀ realms, turn.call = .start realms → ∃ result,
    turn.outcome = .started result ∧ Began turn.before realms turn.after turn.asked result
  /-- What was started since the last stop is stopped, each once and last first. -/
  stopped : ∀ earlier turn later, turns = earlier ++ turn :: later → turn.call = .stop →
    turn.asked = (startedSince earlier).reverse.map .ended ∧
      ((startedSince earlier).map (·.number)).Nodup ∧
        turn.after = .idle ∧ ∀ realm, ¬ Alive (past (earlier ++ [turn])) realm
  /-- As many run as were started once more than they were stopped. -/
  count : (l.count : ℕ∞) =
    {number | timesStarted number (past turns) = timesStopped number (past turns) + 1}.encard

section

variable {l l' last : Lifecycle} {t : Transcript} {outcome : Outcome}
  {turns earlier later : List Turn} {turn : Turn}

theorem call_answered {c : Call} (distinct : l.Distinct) (ends : (l.call c).Ends t (outcome, l')) :
    Answered l c t outcome l' ∧ InTurn l.started t ∧ runningAfter l.started t = l'.started ∧
      l'.Distinct := by
  cases c with
  | start realms =>
    obtain ⟨t, ⟨result, after⟩, rest, rfl, starts, done⟩ := Program.ends_bind.mp ends
    obtain ⟨rfl, rfl, rfl⟩ := Program.ends_pure.mp done
    obtain ⟨began, inTurn⟩ := start_began starts
    have starting := start_ends starts
    rw [List.append_nil]
    exact ⟨.started began, inTurn, starting.running.2, starting.distinct distinct⟩
  | stop =>
    obtain ⟨t, after, rest, rfl, stops, done⟩ := Program.ends_bind.mp ends
    obtain ⟨rfl, rfl, rfl⟩ := Program.ends_pure.mp done
    have running := (stop_ends stops).2.running.2
    obtain ⟨rfl, rfl⟩ := stop_eq stops
    have once : (l.started.reverse.map (·.number)).Nodup := by
      rw [List.map_reverse]
      exact List.nodup_reverse.mpr distinct
    have inTurn := inTurn_ended (fun realm member => List.mem_reverse.mp member) once
    rw [List.append_nil]
    exact ⟨.stopped, inTurn, running, List.nodup_nil⟩

theorem Answered.began {realms : List Realm} (answered : Answered l (.start realms) t outcome l') :
    ∃ result, outcome = .started result ∧ Began l realms l' t result := by
  cases answered with
  | started began => exact ⟨_, rfl, began⟩

theorem Answered.stopped_eq (answered : Answered l .stop t outcome l') :
    t = l.started.reverse.map .ended ∧ l' = .idle := by
  cases answered with
  | stopped => exact ⟨rfl, rfl⟩

/-- A lifecycle remembers what runs, and keeps to the turns. -/
theorem Lived.inTurn (lived : Lived l turns last) (distinct : l.Distinct) :
    InTurn l.started (past turns) ∧ runningAfter l.started (past turns) = last.started ∧
      last.Distinct := by
  induction lived with
  | nil => exact ⟨trivial, rfl, distinct⟩
  | cons ends _ ih =>
    obtain ⟨-, first, running, distinct⟩ := call_answered distinct ends
    obtain ⟨later, running', distinct'⟩ := ih distinct
    rw [← running] at later running'
    exact ⟨inTurn_append.mpr ⟨first, later⟩, (runningAfter_append ..).trans running', distinct'⟩

theorem Lived.of_idle (lived : Lived .idle turns last) :
    InTurn [] (past turns) ∧ runningAfter [] (past turns) = last.started ∧ last.Distinct :=
  lived.inTurn List.nodup_nil

theorem Lived.concat {c : Call} (lived : Lived l turns l')
    (ends : (l'.call c).Ends t (outcome, last)) :
    Lived l (turns ++ [⟨l', c, t, outcome, last⟩]) last := by
  induction lived with
  | nil => exact .cons ends .nil
  | cons first _ ih => exact .cons first (ih ends)

theorem Lived.split (lived : Lived l (earlier ++ turn :: later) last) :
    Lived l earlier turn.before ∧
      (turn.before.call turn.call).Ends turn.asked (turn.outcome, turn.after) ∧
        Lived turn.after later last := by
  induction earlier generalizing l with
  | nil =>
    cases lived with
    | cons ends rest => exact ⟨.nil, ends, rest⟩
  | cons first earlier ih =>
    cases lived with
    | cons ends rest =>
      obtain ⟨before, ends', after⟩ := ih rest
      exact ⟨.cons ends before, ends', after⟩

theorem Lived.answered (lived : Lived .idle (earlier ++ turn :: later) last) :
    Answered turn.before turn.call turn.asked turn.outcome turn.after :=
  (call_answered lived.split.1.of_idle.2.2 lived.split.2.1).1

/-- What is remembered was started since the last stop, so that only the last stop counts. -/
theorem Lived.started_eq (lived : Lived .idle turns last) : last.started = startedSince turns := by
  induction turns using List.reverseRecOn generalizing last with
  | nil =>
    cases lived
    rfl
  | append_singleton turns turn ih =>
    obtain ⟨earlier, -, done⟩ := lived.split
    have answered := lived.answered
    cases done
    cases called : turn.call with
    | start realms =>
      have starts : turn.starts = true := by rw [Turn.starts, called]
      rw [called] at answered
      obtain ⟨result, -, began⟩ := answered.began
      rw [began.started_eq, ih earlier, startedSince, startedSince,
        List.rtakeWhile_concat_pos _ _ _ starts]
      simp [past]
    | stop =>
      have stops : ¬ turn.starts = true := by simp [Turn.starts, called]
      rw [called] at answered
      rw [answered.stopped_eq.2, startedSince, List.rtakeWhile_concat_neg _ _ _ stops]
      rfl

theorem Lived.stopped (lived : Lived .idle (earlier ++ turn :: later) last)
    (called : turn.call = .stop) :
    turn.asked = (startedSince earlier).reverse.map .ended ∧
      ((startedSince earlier).map (·.number)).Nodup ∧
        turn.after = .idle ∧ ∀ realm, ¬ Alive (past (earlier ++ [turn])) realm := by
  obtain ⟨asked, idle⟩ := (called ▸ lived.answered).stopped_eq
  obtain ⟨before, ends, -⟩ := lived.split
  have distinct := before.of_idle.2.2
  have running : runningAfter [] (past (earlier ++ [turn])) = turn.after.started :=
    (before.concat ends).of_idle.2.1
  rw [before.started_eq] at asked
  rw [Distinct, before.started_eq] at distinct
  refine ⟨asked, distinct, idle, fun realm alive => ?_⟩
  simp [alive_iff, running, idle, Lifecycle.idle] at alive

/-- A lifecycle is disciplined from its first call on. -/
theorem Lived.disciplined (lived : Lived .idle turns last) : Disciplined turns last := by
  obtain ⟨inTurn, running, distinct⟩ := lived.of_idle
  constructor
  case alternate => exact fun number => (inTurn.isChain_marks number).1
  case unstarted =>
    intro front realm answer rest same alive
    rw [same] at inTurn
    obtain ⟨r, runs, known⟩ := alive_iff.mp alive
    have idle := inTurn.of_start
    rw [Realm.among_iff.mpr ⟨r, runs, known⟩] at idle
    contradiction
  case began =>
    intro turn member realms called
    obtain ⟨earlier, later, rfl⟩ := List.append_of_mem member
    exact (called ▸ lived.answered).began
  case stopped =>
    rintro earlier turn later rfl called
    exact lived.stopped called
  case count =>
    have counted := inTurn.length_eq_encard (running ▸ distinct)
    rwa [running] at counted

end

/-- The turns that calls come to in given surroundings. -/
def turnsIn (h : Surroundings W) : List Call → Lifecycle → W → List Turn × Lifecycle
  | [], l, _ => ([], l)
  | c :: calls, l, w =>
    let ((outcome, l'), after) := (l.call c).run h w
    let (turns, last) := turnsIn h calls l' after
    (⟨l, c, (l.call c).events h w, outcome, l'⟩ :: turns, last)

theorem lived_turnsIn (h : Surroundings W) (calls : List Call) (l : Lifecycle) (w : W) :
    Lived l (turnsIn h calls l w).1 (turnsIn h calls l w).2 := by
  induction calls generalizing l w with
  | nil => exact .nil
  | cons c calls ih => exact .cons (Program.ends_events h (l.call c) w) (ih _ _)

end Lifecycle

namespace Trial

open Lifecycle

/-- A realm that stands twice in a set, a set that fails, sets that overlap, and stops between. -/
def shifts : List Turn × Lifecycle :=
  turnsIn setting.surroundings
    [.start [staff, staff], .start [guests, nobody, staff], .start [guests], .stop, .stop,
      .start [guests, staff]]
    .idle (stage "orders")

theorem shifts_disciplined : Disciplined shifts.1 shifts.2 :=
  (lived_turnsIn ..).disciplined

example : shifts.1.map (·.asked.length) = [1, 2, 0, 2, 0, 2] ∧ shifts.2.count = 2 := by decide

end Trial
end GatedStartup
