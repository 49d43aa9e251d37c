import GatedStartup.Proofs.Crowd
import GatedStartup.Proofs.IndexHistory

/-! One managed index called by many at a time. Its binding is kept behind a lock; ensuring holds
the lock throughout, and so does destroying where it has anything to do. -/
namespace GatedStartup.Index.Managed

open Lookup

/-- What is done with the binding behind its lock. -/
abbrev Guard (α : Type) := Sharer Request.Reply (Option Binding) α

open Sharer

section

variable (k : Collaborators) (d : Definition) (component : Option String)

def lockedEnsure : Guard (Except Failure Handle) := do
  lock
  match ← read with
  | some b =>
    unlock
    pure (.ok b.handle)
  | none =>
    match ← outside (acquire k (unbound d component)) with
    | .error error =>
      unlock
      pure (.error error)
    | .ok b =>
      write (some b)
      unlock
      pure (.ok b.handle)

/-- Where nothing is to be destroyed the lock is not even taken. -/
def lockedDestroy : Guard (Except Failure Unit) :=
  if d.destroyOnShutdown then do
    lock
    match ← read with
    | none =>
      unlock
      pure (.ok ())
    | some b =>
      match ← outside (ask (.destroyIndex b.service b.handle)) with
      | .error error =>
        unlock
        pure (.error (.search error))
      | .ok () =>
        write none
        unlock
        pure (.ok ())
  else pure (.ok ())

def lockedBound : Guard (Option Handle) := do
  lock
  let b ← read
  unlock
  pure (b.map (·.handle))

def lockedCall : Call → Guard Outcome
  | .ensure => .ensured <$> lockedEnsure k d component
  | .destroy => .destroyed <$> lockedDestroy d
  | .bound => .bound <$> lockedBound

end

theorem guarded_lockedCall {k : Collaborators} {d : Definition} {component : Option String}
    (c : Call) : Guarded (lockedCall k d component c) := by
  cases c with
  | ensure =>
    refine .map (.lock (.go nofun nofun fun b => ?_))
    cases b with
    | some b => exact .unlock rfl
    | none =>
      refine .outside_bind fun acquired => ?_
      cases acquired with
      | error error => exact .unlock rfl
      | ok b => exact .go nofun nofun fun _ => .unlock rfl
  | destroy =>
    rw [lockedCall, lockedDestroy]
    split
    · refine .map (.lock (.go nofun nofun fun b => ?_))
      cases b with
      | none => exact .unlock rfl
      | some b =>
        refine .outside_bind fun destroyed => ?_
        cases destroyed with
        | error error => exact .unlock rfl
        | ok => exact .go nofun nofun fun _ => .unlock rfl
    · exact .map (.idle _)
  | bound => exact .map (.lock (.go nofun nofun fun _ => .unlock rfl))

/-- Only a call to destroy does nothing, where nothing is to be destroyed. -/
theorem lockedCall_eq_done {k : Collaborators} {d : Definition} {component : Option String}
    {c : Call} {outcome : Outcome} (idle : lockedCall k d component c = .done outcome) :
    c = .destroy ∧ d.destroyOnShutdown = false ∧ outcome = .destroyed (.ok ()) := by
  cases c with
  | ensure | bound => exact nomatch (show Program.ask Move.lock _ = .done outcome from idle)
  | destroy =>
    rw [lockedCall, lockedDestroy] at idle
    split at idle
    · exact nomatch (show Program.ask Move.lock _ = .done outcome from idle)
    · next spared =>
      cases idle
      exact ⟨rfl, by simpa using spared, rfl⟩

/-- Left alone, a program with the lock does to the binding what the program does to the index. -/
structure Matches (h : Surroundings W) (x : Managed) (w : W) (locked : Guard α)
    (p : Work (α × Managed)) : Prop where
  alone : locked.alone h (x.binding, w) =
    ((p.run h w).1.1, (p.run h w).1.2.binding, (p.run h w).2)
  asked : locked.asked h (x.binding, w) = p.events h w

section

variable {h : Surroundings W} {k : Collaborators} {x : Managed} {w : W}

theorem acquire_unbound : acquire k (unbound x.definition x.component) = acquire k x := rfl

theorem lockedEnsure_matches :
    Matches h x w (lockedEnsure k x.definition x.component) (x.ensure k) := by
  cases bound : x.binding with
  | some b => constructor <;> simp [lockedEnsure, ensure, bound]
  | none =>
    constructor <;>
      simp only [lockedEnsure, ensure, bound, acquire_unbound, alone_lock, alone_read,
        alone_outside, asked_bind, asked_lock, asked_read, asked_outside, Program.run_bind,
        Program.events_bind] <;>
      cases ((acquire k x).run h w).1 <;> simp [bound]

theorem lockedDestroy_matches : Matches h x w (lockedDestroy x.definition) x.destroy := by
  rw [lockedDestroy, destroy]
  split
  · cases bound : x.binding with
    | none => constructor <;> simp [bound]
    | some b =>
      constructor <;>
        simp only [bound, alone_lock, alone_read, alone_outside, asked_bind, asked_lock,
          asked_read, asked_outside, Program.run_bind, Program.events_bind] <;>
        cases ((ask (.destroyIndex b.service b.handle)).run h w).1 <;> simp [bound]
  · constructor <;> simp

theorem lockedCall_matches (c : Call) :
    Matches h x w (lockedCall k x.definition x.component c) (x.call k c) := by
  cases c with
  | ensure =>
    obtain ⟨alone, asked⟩ := lockedEnsure_matches (h := h) (k := k) (x := x) (w := w)
    constructor <;> simp [lockedCall, call, alone, asked]
  | destroy =>
    obtain ⟨alone, asked⟩ := lockedDestroy_matches (h := h) (x := x) (w := w)
    constructor <;> simp [lockedCall, call, alone, asked]
  | bound => constructor <;> simp [lockedCall, lockedBound, call, bound]

end

section

variable {ι W : Type} {h : Surroundings W} {calls : ι → Collaborators × Call} {x : Managed} {w : W}
  {order : List ι}

/-- What each caller runs. -/
def callers (d : Definition) (component : Option String) (calls : ι → Collaborators × Call)
    (i : ι) : Guard Outcome :=
  lockedCall (calls i).1 d component (calls i).2

/-- Who asked what. -/
def questions (turns : List (ι × Turn)) : List (ι × Event) :=
  turns.flatMap fun (i, turn) => turn.asked.map (i, ·)

theorem run_definition_eq {k : Collaborators} {c : Call} :
    ((x.call k c).run h w).1.2.definition = x.definition ∧
      ((x.call k c).run h w).1.2.component = x.component :=
  (call_ends (Program.ends_events h (x.call k c) w)).definition_eq

theorem settled_callers :
    Crowd.settled h (callers x.definition x.component calls) order (x.binding, w) =
      ((endIn h calls order x w).1.binding, (endIn h calls order x w).2) := by
  induction order generalizing x w with
  | nil => rfl
  | cons i order ih =>
    obtain ⟨definition, component⟩ := run_definition_eq (h := h) (x := x) (w := w)
      (k := (calls i).1) (c := (calls i).2)
    change Crowd.settled h _ order ((callers x.definition x.component calls i).alone h _).2 = _
    rw [callers, (lockedCall_matches _).alone, ← definition, ← component, ih]
    rfl

theorem serial_callers :
    Crowd.serial h (callers x.definition x.component calls) order (x.binding, w) =
      questions (turnsIn h calls order x w) := by
  induction order generalizing x w with
  | nil => rfl
  | cons i order ih =>
    obtain ⟨definition, component⟩ := run_definition_eq (h := h) (x := x) (w := w)
      (k := (calls i).1) (c := (calls i).2)
    rw [Crowd.serial, callers, (lockedCall_matches _).alone, (lockedCall_matches _).asked,
      ← definition, ← component, ih]
    rfl

theorem turnsIn_append {later : List ι} : turnsIn h calls (order ++ later) x w =
    turnsIn h calls order x w ++
      turnsIn h calls later (endIn h calls order x w).1 (endIn h calls order x w).2 := by
  induction order generalizing x w with
  | nil => rfl
  | cons i order ih => simp [turnsIn, endIn, ih]

theorem turnsIn_map_fst (h : Surroundings W) (calls : ι → Collaborators × Call) (order : List ι)
    (x : Managed) (w : W) : (turnsIn h calls order x w).map (·.1) = order := by
  induction order generalizing x w with
  | nil => rfl
  | cons i order ih => simp [turnsIn, ih]

theorem exists_turnsIn {earlier later : List ι} {i : ι} :
    ∃ turn, (i, turn) ∈ turnsIn h calls (earlier ++ i :: later) x w ∧ turn.outcome =
      ((callers x.definition x.component calls i).alone h
        (Crowd.settled h (callers x.definition x.component calls) earlier (x.binding, w))).1 := by
  obtain ⟨definition, component⟩ := (lived_turnsIn h calls earlier x w).definition_eq
  rw [settled_callers, turnsIn_append, callers, ← definition, ← component,
    (lockedCall_matches _).alone]
  exact ⟨_, List.mem_append_right _ List.mem_cons_self, rfl⟩

/-- An entry stands in one turn, after some whole turns and before others. -/
theorem questions_eq_append_cons {turns : List (ι × Turn)} {front rest : List (ι × Event)} {i : ι}
    {e : Event} (whole : questions turns = front ++ (i, e) :: rest) :
    ∃ earlier turn later before after, turns = earlier ++ (i, turn) :: later ∧
      turn.asked = before ++ e :: after ∧
      front = questions earlier ++ before.map (i, ·) ∧
      rest = after.map (i, ·) ++ questions later := by
  induction turns generalizing front with
  | nil => simp [questions] at whole
  | cons first turns ih =>
    obtain ⟨_, rfl, later⟩ | ⟨_, inside, rfl⟩ := Lists.append_eq_append_cons whole
    · obtain ⟨earlier, turn, rest, before, after, rfl, asked, rfl, last⟩ := ih later
      exact ⟨first :: earlier, turn, rest, before, after, rfl, asked, by simp [questions], last⟩
    · obtain ⟨before, _, asked, rfl, onward⟩ := List.map_eq_append_iff.mp inside
      obtain ⟨_, after, rfl, same, rfl⟩ := List.map_eq_cons_iff.mp onward
      obtain ⟨rfl, rfl⟩ := Prod.mk.inj same
      exact ⟨[], first.2, turns, before, after, rfl, asked, by simp [questions], rfl⟩

/-- An index was created. -/
def Created (e : Event) : Prop :=
  ∃ service name path fields, e = ⟨.createIndex service name path fields, .ok ()⟩

/-- An index was destroyed. -/
def Gone (e : Event) : Prop := ∃ service handle, e = ⟨.destroyIndex service handle, .ok ()⟩

/-- What is created is found when it is looked for next. -/
def Visible (log : List (ι × Event)) : Prop :=
  ∀ front i j service name path fields found rest,
    log = front ++ (i, ⟨.createIndex service name path fields, .ok ()⟩) ::
      (j, ⟨.findIndex service name path, found⟩) :: rest → found.isSome

section

variable {turns : List (ι × Turn)} {front between rest left : List (ι × Event)}

/-- The turns of two callers, with those in between. -/
theorem exists_turns_between {earlier between later : List ι} {i j : ι}
    (order : turns.map (·.1) = earlier ++ i :: (between ++ j :: later)) :
    ∃ before first middle second after,
      turns = before ++ (i, first) :: (middle ++ (j, second) :: after) ∧
        middle.map (·.1) = between := by
  obtain ⟨before, _, rfl, -, fromFirst⟩ := List.map_eq_append_iff.mp order
  obtain ⟨first, _, rfl, rfl, pastFirst⟩ := List.map_eq_cons_iff.mp fromFirst
  obtain ⟨middle, _, rfl, same, fromSecond⟩ := List.map_eq_append_iff.mp pastFirst
  obtain ⟨second, after, rfl, rfl, -⟩ := List.map_eq_cons_iff.mp fromSecond
  exact ⟨before, first.2, middle, second.2, after, rfl, same⟩

theorem mem_questions {entry : ι × Event} :
    entry ∈ questions turns ↔ ∃ turn, (entry.1, turn) ∈ turns ∧ entry.2 ∈ turn.asked := by
  simp only [questions, List.mem_flatMap, List.mem_map, Prod.exists]
  constructor
  · rintro ⟨i, turn, member, e, asked, rfl⟩
    exact ⟨turn, member, asked⟩
  · rintro ⟨turn, member, asked⟩
    exact ⟨_, turn, member, _, asked, rfl⟩

/-- Nobody asks anything between two questions of another. -/
theorem questions_apart {i : ι} {e e' : Event} (distinct : (turns.map (·.1)).Nodup)
    (whole : questions turns = front ++ (i, e) :: (between ++ (i, e') :: rest)) :
    ∀ entry ∈ between, entry.1 = i := by
  obtain ⟨earlier, turn, later, _, after, rfl, -, -, onward⟩ := questions_eq_append_cons whole
  obtain ⟨_, -, inside⟩ | ⟨_, inside, -⟩ := Lists.append_eq_append_cons onward.symm
  · have later : (i, e') ∈ questions later := by simp [inside]
    obtain ⟨again, member, -⟩ := mem_questions.mp later
    simp only [List.map_append, List.map_cons, List.nodup_middle, List.nodup_cons] at distinct
    exact absurd (List.mem_append_right _ (List.mem_map_of_mem member)) distinct.1
  · intro entry member
    have own : entry ∈ after.map (i, ·) := by simp [inside, member]
    obtain ⟨_, -, rfl⟩ := List.mem_map.mp own
    rfl

/-- Between two creations an index is destroyed. What was created is looked for at once, before
anything else is created. -/
theorem gone_between {z : Managed} {i j : ι} {e e' : Event}
    (lived : Lived x (turns.map (·.2)) z)
    (whole : questions turns = (front ++ (i, e) :: (between ++ (j, e') :: rest)) ++ left)
    (visible : Visible (front ++ (i, e) :: (between ++ (j, e') :: rest))) (created : Created e)
    (again : Created e') : ∃ entry ∈ between, Gone entry.2 := by
  obtain ⟨service, name, path, fields, rfl⟩ := created
  obtain ⟨service', name', path', fields', rfl⟩ := again
  rw [List.append_assoc, List.cons_append, List.append_assoc] at whole
  obtain ⟨earlier, first, later, _, after, rfl, asked, -, onward⟩ := questions_eq_append_cons whole
  rw [List.map_append, List.map_cons] at lived
  obtain ⟨-, answered, lived⟩ := lived.split
  obtain ⟨handed, follows, bound⟩ := (answered.creates asked).handed
  cases follows
  obtain ⟨between, rfl, inside⟩ | ⟨_, inside, -⟩ := Lists.append_eq_append_cons onward.symm
  · obtain ⟨handle, rfl⟩ := Option.isSome_iff_exists.mp
      (visible front i i service name path fields handed _ rfl)
    obtain ⟨middle, second, _, before, _, rfl, asked, rfl, -⟩ := questions_eq_append_cons inside
    rw [List.map_append, List.map_cons] at lived
    obtain ⟨lived, answered, -⟩ := lived.split
    by_contra spared
    have unbound : second.before.binding = none := (answered.creates asked).unbound
    have kept : second.before.binding = some ⟨handle, service⟩ := by
      refine lived.keeps bound fun turn member ⟨service, handle, gone⟩ => spared ?_
      obtain ⟨⟨m, turn⟩, inside, rfl⟩ := List.mem_map.mp member
      have entry : (m, _) ∈ questions middle := mem_questions.mpr ⟨turn, inside, gone⟩
      exact ⟨_, List.mem_append_right _ (List.mem_append_left _ entry), service, handle, rfl⟩
    simp [unbound] at kept
  · simp [List.cons_eq_append_iff] at inside

end

section

variable {s : Crowd Request.Reply (Option Binding) W ι Outcome}
  (serialized : Crowd.Serialized h (callers x.definition x.component calls) (x.binding, w) s)
include serialized

theorem log_of_serialized : ∃ left, questions (turnsIn h calls s.order x w) = s.log ++ left ∧
    ∀ entry ∈ left, s.owner = some entry.1 := by
  cases owner : s.owner with
  | none =>
    refine ⟨[], ?_, by simp⟩
    rw [List.append_nil, (serialized.free owner).2, serial_callers]
  | some i =>
    obtain ⟨_, _, _, _, logged⟩ := serialized.owned i owner
    exact ⟨_, by rw [logged, serial_callers], by simp⟩

theorem outcome_of_serialized {i : ι} {outcome : Outcome} (done : s.tasks i = .done outcome) :
    (∃ turn, (i, turn) ∈ turnsIn h calls s.order x w ∧ turn.outcome = outcome) ∨
      i ∉ s.order ∧ (calls i).2 = .destroy ∧ x.definition.destroyOnShutdown = false ∧
        outcome = .destroyed (.ok ()) := by
  by_cases had : i ∈ s.order
  · have other : s.owner ≠ some i := fun owner => by
      obtain ⟨_, _, closing, _⟩ := serialized.owned i owner
      rw [done] at closing
      contradiction
    obtain ⟨earlier, later, order⟩ := List.append_of_mem had
    have told := serialized.done earlier i later order other
    obtain ⟨turn, member, same⟩ :
      ∃ turn, (i, turn) ∈ turnsIn h calls (earlier ++ i :: later) x w ∧ _ := exists_turnsIn
    refine .inl ⟨turn, order ▸ member, ?_⟩
    rw [same]
    exact (Program.done.inj (done.symm.trans told)).symm
  · exact .inr ⟨had, lockedCall_eq_done ((serialized.waiting i had).symm.trans done)⟩

theorem outcome_unique {i : ι} {turn : Turn} {outcome : Outcome}
    (member : (i, turn) ∈ turnsIn h calls s.order x w) (done : s.tasks i = .done outcome) :
    turn.outcome = outcome := by
  rcases outcome_of_serialized serialized done with ⟨turn', member', rfl⟩ | ⟨fresh, -⟩
  · have distinct : ((turnsIn h calls s.order x w).map (·.1)).Nodup :=
      (turnsIn_map_fst h calls s.order x w).symm ▸ serialized.distinct
    rw [(Prod.mk.inj (List.inj_on_of_nodup_map distinct member member' rfl)).2]
  · refine absurd ?_ fresh
    rw [← turnsIn_map_fst h calls s.order x w]
    exact List.mem_map_of_mem member

/-- The log tells of every index destroyed in a turn that others followed. -/
theorem not_destroys_between {earlier between later : List ι} {i j m : ι} {turn : Turn}
    (order : s.order = earlier ++ i :: (between ++ j :: later)) (inside : m ∈ between)
    (member : (m, turn) ∈ turnsIn h calls s.order x w)
    (spared : ∀ entry ∈ s.log, entry.1 ∈ between → ¬ Gone entry.2) : ¬ turn.Destroys := by
  rintro ⟨service, handle, gone⟩
  obtain ⟨left, whole, owed⟩ := log_of_serialized serialized
  have entry : (m, _) ∈ questions (turnsIn h calls s.order x w) :=
    mem_questions.mpr ⟨turn, member, gone⟩
  rw [whole, List.mem_append] at entry
  rcases entry with logged | owing
  · exact spared _ logged inside ⟨service, handle, rfl⟩
  · obtain ⟨front, back, rfl⟩ := List.append_of_mem inside
    have order : s.order = (earlier ++ i :: front) ++ m :: (back ++ j :: later) := by simp [order]
    simpa using serialized.owner_last (owed _ owing) order

/-- Until an index is destroyed whoever ensures it gets the same. -/
theorem handle_eq {earlier between later : List ι} {i j : ι} {handle handle' : Handle}
    (order : s.order = earlier ++ i :: (between ++ j :: later))
    (firstDone : s.tasks i = .done (.ensured (.ok handle)))
    (secondDone : s.tasks j = .done (.ensured (.ok handle')))
    (spared : ∀ entry ∈ s.log, entry.1 ∈ between → ¬ Gone entry.2) : handle' = handle := by
  have lived := lived_turnsIn h calls s.order x w
  obtain ⟨before, first, middle, second, after, turns, tags⟩ :=
    exists_turns_between ((turnsIn_map_fst h calls s.order x w).trans order)
  have firstOutcome : first.outcome = .ensured (.ok handle) :=
    outcome_unique serialized (by simp [turns]) firstDone
  have secondOutcome : second.outcome = .ensured (.ok handle') :=
    outcome_unique serialized (by simp [turns]) secondDone
  rw [turns, List.map_append, List.map_cons, List.map_append, List.map_cons] at lived
  obtain ⟨-, answered, rest⟩ := lived.split
  obtain ⟨b, bound, rfl⟩ := (firstOutcome ▸ answered).bound_of_ok
  obtain ⟨kept, answers, -⟩ := rest.split
  have bound : second.before.binding = some b := by
    refine kept.keeps bound fun turn member => ?_
    obtain ⟨⟨m, turn⟩, inside, rfl⟩ := List.mem_map.mp member
    exact not_destroys_between serialized order (tags ▸ List.mem_map_of_mem inside)
      (by simp [turns, inside]) spared
  exact Except.ok.inj ((answers.answers bound).ensured _ secondOutcome).1

end

variable [DecidableEq ι]

/-- What holds of an index that many call at a time, at any moment. -/
structure OneAtATime (h : Surroundings W) (calls : ι → Collaborators × Call) (x : Managed) (w : W)
    (s : Crowd Request.Reply (Option Binding) W ι Outcome) : Prop where
  distinct : s.order.Nodup
  /-- Nobody asks anything between two questions of another. -/
  apart : ∀ front i e between e' rest, s.log = front ++ (i, e) :: (between ++ (i, e') :: rest) →
    ∀ entry ∈ between, entry.1 = i
  /-- What was asked so far is what would have been asked had the calls been made one after another,
  but for what is left to whoever has the lock. -/
  log : ∃ left, questions (turnsIn h calls s.order x w) = s.log ++ left ∧
    ∀ entry ∈ left, s.owner = some entry.1
  outcome : ∀ i outcome, s.tasks i = .done outcome →
    (∃ turn, (i, turn) ∈ turnsIn h calls s.order x w ∧ turn.outcome = outcome) ∨
      i ∉ s.order ∧ (calls i).2 = .destroy ∧ x.definition.destroyOnShutdown = false ∧
        outcome = .destroyed (.ok ())
  free : s.owner = none →
    s.shared = ((endIn h calls s.order x w).1.binding, (endIn h calls s.order x w).2)
  progress : ∀ i, (∀ outcome, s.tasks i ≠ .done outcome) → ∃ s', Crowd.Step h s s'
  created : Visible s.log → ∀ front first between second rest,
    s.log = front ++ first :: (between ++ second :: rest) → Created first.2 → Created second.2 →
      ∃ entry ∈ between, Gone entry.2
  same : ∀ earlier i between j later handle handle',
    s.order = earlier ++ i :: (between ++ j :: later) →
      s.tasks i = .done (.ensured (.ok handle)) → s.tasks j = .done (.ensured (.ok handle')) →
        (∀ entry ∈ s.log, entry.1 ∈ between → ¬ Gone entry.2) → handle' = handle

theorem oneAtATime_of_reached {s : Crowd Request.Reply (Option Binding) W ι Outcome}
    (reached : Relation.ReflTransGen (Crowd.Step h)
      (Crowd.start (callers x.definition x.component calls) (x.binding, w)) s) :
    OneAtATime h calls x w s := by
  have guarded (i : ι) : (callers x.definition x.component calls i).Guarded := guarded_lockedCall _
  have serialized := Crowd.Serialized.of_reached guarded reached
  constructor
  case distinct => exact serialized.distinct
  case apart =>
    intro front i e between e' rest log
    obtain ⟨left, whole, -⟩ := log_of_serialized serialized
    rw [log, List.append_assoc, List.cons_append, List.append_assoc] at whole
    exact questions_apart ((turnsIn_map_fst h calls s.order x w).symm ▸ serialized.distinct) whole
  case log => exact log_of_serialized serialized
  case outcome => exact fun i outcome => outcome_of_serialized serialized
  case free => exact fun free => (serialized.free free).1.trans settled_callers
  case progress => exact fun i => serialized.progress guarded
  case created =>
    rintro visible front ⟨i, e⟩ between ⟨j, e'⟩ rest log created again
    obtain ⟨left, whole, -⟩ := log_of_serialized serialized
    rw [log] at whole visible
    exact gone_between (lived_turnsIn h calls s.order x w) whole visible created again
  case same => exact fun _ _ _ _ _ _ _ => handle_eq serialized

end

end GatedStartup.Index.Managed

namespace GatedStartup.Trial

open Index Managed Rehearsal

def ensureTwiceAndDestroy : Fin 3 → Lookup.Collaborators × Managed.Call
  | 0 | 1 => (collaborators, .ensure)
  | 2 => (collaborators, .destroy)

/-- Three calls that take turns until all are done. -/
def bustle : Crowd Request.Reply (Option Binding) Stage (Fin 3) Outcome :=
  (List.replicate 14 [1, 0, 2]).flatten.foldl (Crowd.advance setting.surroundings)
    (Crowd.start (callers orders none ensureTwiceAndDestroy) (none, bare))

theorem bustle_oneAtATime :
    OneAtATime setting.surroundings ensureTwiceAndDestroy (unbound orders none) bare bustle :=
  oneAtATime_of_reached (Crowd.reached_schedule _)

example : bustle.order = [1, 0, 2] ∧ bustle.log.map (·.1) = [1, 1, 1, 2] := by decide

end GatedStartup.Trial
