import GatedStartup.Proofs.Transcript
import Mathlib.Data.List.Nodup
import Mathlib.Logic.Function.Basic
import Mathlib.Logic.Relation

/-! Programs that share a cell behind a lock. Each takes the lock first and gives it back last, and
their moves come in any order. Whatever the order, it is as if they had run one after another, in
the order in which they got the lock. -/
namespace GatedStartup

/-- A move of a program that shares a cell of type `C`. -/
inductive Move (Q C : Type) where
  | lock | unlock | read
  | write (content : C)
  | outside (question : Q)

variable {Q C W ι α β : Type} {Answer : Q → Type}

abbrev Move.Reply (Answer : Q → Type) : Move Q C → Type
  | .lock | .unlock | .write _ => Unit
  | .read => C
  | .outside question => Answer question

/-- A program that shares a cell of type `C`. -/
abbrev Sharer (Answer : Q → Type) (C α : Type) := Program (Move.Reply (C := C) Answer) α

/-- The cell and the surroundings, as they answer a move. The lock is not theirs to keep. -/
def Move.handler (h : Handler Answer W) : Handler (Move.Reply (C := C) Answer) (C × W)
  | .lock, s | .unlock, s => ((), s)
  | .read, s => (s.1, s)
  | .write content, s => ((), content, s.2)
  | .outside question, s => ((h question s.2).1, s.1, (h question s.2).2)

/-- What is asked outside. -/
def Move.outside? : Exchange (Move.Reply (C := C) Answer) → Option (Exchange Answer)
  | ⟨.outside question, answer⟩ => some ⟨question, answer⟩
  | ⟨.lock, _⟩ | ⟨.unlock, _⟩ | ⟨.read, _⟩ | ⟨.write _, _⟩ => none

namespace Sharer

def lock : Sharer Answer C Unit := .ask .lock .done

def unlock : Sharer Answer C Unit := .ask .unlock .done

def read : Sharer Answer C C := .ask .read .done

def write (content : C) : Sharer Answer C Unit := .ask (.write content) .done

/-- A program that leaves the cell alone. -/
def outside : Program Answer α → Sharer Answer C α
  | .done value => .done value
  | .ask question next => .ask (.outside question) fun answer => outside (next answer)

/-- What the cell and the surroundings are left as, and the result, when nobody interferes. -/
abbrev alone (h : Handler Answer W) (p : Sharer Answer C α) (s : C × W) : α × C × W :=
  p.run (Move.handler h) s

/-- What is asked outside when nobody interferes. -/
def asked (h : Handler Answer W) (p : Sharer Answer C α) (s : C × W) : List (Exchange Answer) :=
  (p.events (Move.handler h) s).filterMap Move.outside?

/-- The rest of a program that has the lock: it gives it back last. -/
inductive Closing : Sharer Answer C α → Prop where
  | unlock : next () = .done value → Closing (.ask .unlock next)
  | go {next : Move.Reply Answer move → Sharer Answer C α} : move ≠ .lock → move ≠ .unlock →
      (∀ answer, Closing (next answer)) → Closing (.ask move next)

/-- A program that does nothing, or takes the lock first and gives it back last. -/
inductive Guarded : Sharer Answer C α → Prop where
  | idle (value : α) : Guarded (.done value)
  | lock : Closing (next ()) → Guarded (.ask .lock next)

variable {h : Handler Answer W} {s : C × W}

@[simp] theorem alone_lock : alone h (lock : Sharer Answer C Unit) s = ((), s) := rfl

@[simp] theorem alone_unlock : alone h (unlock : Sharer Answer C Unit) s = ((), s) := rfl

@[simp] theorem alone_read : alone h (read : Sharer Answer C C) s = (s.1, s) := rfl

@[simp] theorem alone_write {content : C} :
    alone h (write content : Sharer Answer C Unit) s = ((), content, s.2) := rfl

@[simp] theorem asked_pure {value : α} : asked h (pure value : Sharer Answer C α) s = [] := rfl

@[simp] theorem asked_lock : asked h (lock : Sharer Answer C Unit) s = [] := rfl

@[simp] theorem asked_unlock : asked h (unlock : Sharer Answer C Unit) s = [] := rfl

@[simp] theorem asked_read : asked h (read : Sharer Answer C C) s = [] := rfl

@[simp] theorem asked_write {content : C} :
    asked h (write content : Sharer Answer C Unit) s = [] := rfl

@[simp] theorem alone_outside {p : Program Answer α} :
    alone h (outside p) s = ((p.run h s.2).1, s.1, (p.run h s.2).2) := by
  induction p generalizing s with
  | done value => rfl
  | ask question next ih => exact ih _

@[simp] theorem asked_outside {p : Program Answer α} : asked h (outside p) s = p.events h s.2 := by
  induction p generalizing s with
  | done value => rfl
  | ask question next ih => exact congrArg _ (ih _)

@[simp] theorem asked_bind {p : Sharer Answer C α} {f : α → Sharer Answer C β} :
    asked h (p >>= f) s = asked h p s ++ asked h (f (alone h p s).1) (alone h p s).2 := by
  simp [asked]

@[simp] theorem asked_map {p : Sharer Answer C α} {f : α → β} :
    asked h (f <$> p) s = asked h p s := by
  simp [asked]

theorem asked_ask {move : Move Q C} {next : Move.Reply Answer move → Sharer Answer C α} :
    asked h (.ask move next) s =
      (Move.outside? ⟨move, (Move.handler h move s).1⟩).toList ++
        asked h (next (Move.handler h move s).1) (Move.handler h move s).2 := by
  cases move <;> rfl

/-- Asking outside does not give the lock back. -/
theorem Closing.outside_bind {p : Program Answer α} {f : α → Sharer Answer C β}
    (closing : ∀ value, Closing (f value)) : Closing (outside p >>= f) := by
  change Closing ((outside p).bind f)
  induction p with
  | done value => exact closing value
  | ask question next ih => exact .go nofun nofun ih

theorem Closing.map {p : Sharer Answer C α} {f : α → β} (closing : Closing p) :
    Closing (f <$> p) := by
  induction closing with
  | unlock last => exact .unlock (by rw [last]; rfl)
  | go going staying _ ih => exact .go going staying ih

theorem Guarded.map {p : Sharer Answer C α} {f : α → β} (guarded : Guarded p) :
    Guarded (f <$> p) := by
  cases guarded with
  | idle value => exact .idle (f value)
  | lock closing => exact .lock closing.map

end Sharer

namespace Crowd

section

variable (h : Handler Answer W) (programs : ι → Sharer Answer C α)

/-- What programs leave that run one after another. -/
def settled (order : List ι) (s : C × W) : C × W :=
  order.foldl (fun s i => ((programs i).alone h s).2) s

/-- Who asks what outside when programs run one after another. -/
def serial : List ι → C × W → List (ι × Exchange Answer)
  | [], _ => []
  | i :: order, s =>
    ((programs i).asked h s).map (i, ·) ++ serial order ((programs i).alone h s).2

theorem settled_concat (order : List ι) (i : ι) (s : C × W) :
    settled h programs (order ++ [i]) s =
      ((programs i).alone h (settled h programs order s)).2 := by
  simp [settled]

theorem serial_concat (order : List ι) (i : ι) (s : C × W) :
    serial h programs (order ++ [i]) s = serial h programs order s ++
      ((programs i).asked h (settled h programs order s)).map (i, ·) := by
  induction order generalizing s with
  | nil => simp [serial, settled]
  | cons j order ih => simp [serial, ih, settled]

end

end Crowd

/-- Programs that share a cell. `log` tells who asked what outside, `order` who got the lock. -/
structure Crowd (Answer : Q → Type) (C W ι α : Type) where
  owner : Option ι
  shared : C × W
  tasks : ι → Sharer Answer C α
  log : List (ι × Exchange Answer)
  order : List ι

namespace Crowd

/-- Nobody has moved. -/
def start (programs : ι → Sharer Answer C α) (s : C × W) : Crowd Answer C W ι α :=
  ⟨none, s, programs, [], []⟩

/-- Those who had the lock are done as if they had run one after another, and whoever has it now
goes on as if alone. -/
structure Serialized (h : Handler Answer W) (programs : ι → Sharer Answer C α) (first : C × W)
    (s : Crowd Answer C W ι α) : Prop where
  distinct : s.order.Nodup
  waiting : ∀ i ∉ s.order, s.tasks i = programs i
  done : ∀ earlier i later, s.order = earlier ++ i :: later → s.owner ≠ some i →
    s.tasks i = .done ((programs i).alone h (settled h programs earlier first)).1
  free : s.owner = none →
    s.shared = settled h programs s.order first ∧ s.log = serial h programs s.order first
  owned : ∀ i, s.owner = some i → ∃ earlier, s.order = earlier ++ [i] ∧ (s.tasks i).Closing ∧
    (s.tasks i).alone h s.shared = (programs i).alone h (settled h programs earlier first) ∧
    s.log ++ ((s.tasks i).asked h s.shared).map (i, ·) = serial h programs s.order first

namespace Serialized

variable {h : Handler Answer W} {programs : ι → Sharer Answer C α} {first : C × W}
  {s : Crowd Answer C W ι α} {i : ι}

theorem start : Serialized h programs first (start programs first) where
  distinct := .nil
  waiting _ _ := rfl
  done _ _ _ order := by simp [Crowd.start] at order
  free _ := ⟨rfl, rfl⟩
  owned := nofun

/-- Nobody is past the lock but those who are done and whoever has it. -/
theorem not_mem_order (serialized : Serialized h programs first s) (other : s.owner ≠ some i)
    (unfinished : ∀ value, s.tasks i ≠ .done value) : i ∉ s.order := fun had => by
  obtain ⟨earlier, later, order⟩ := List.append_of_mem had
  exact unfinished _ (serialized.done earlier i later order other)

/-- Nobody got the lock after whoever has it. -/
theorem owner_last (serialized : Serialized h programs first s) (owner : s.owner = some i)
    {earlier later : List ι} (order : s.order = earlier ++ i :: later) : later = [] := by
  obtain ⟨before, ends, -⟩ := serialized.owned i owner
  rcases List.eq_nil_or_concat' later with rfl | ⟨between, last, rfl⟩
  · rfl
  · have whole : before ++ [i] = (earlier ++ i :: between) ++ [last] := by simp [← ends, order]
    obtain ⟨rfl, -⟩ := List.append_inj' whole rfl
    have distinct := serialized.distinct
    simp [ends, List.nodup_middle] at distinct

/-- Whoever moves without taking the lock has it. -/
theorem owner_of_move (serialized : Serialized h programs first s)
    (guarded : ∀ i, (programs i).Guarded) {move : Move Q C}
    {next : Move.Reply Answer move → Sharer Answer C α} (moves : s.tasks i = .ask move next)
    (going : move ≠ .lock) : s.owner = some i := by
  by_contra other
  have start := guarded i
  rw [← serialized.waiting i (serialized.not_mem_order other (by simp [moves])), moves] at start
  cases start
  exact going rfl

end Serialized

variable [DecidableEq ι]

/-- After a move of `i`, which goes on as it is told. -/
def moved (s : Crowd Answer C W ι α) (h : Handler Answer W) (i : ι) (move : Move Q C)
    (next : Move.Reply Answer move → Sharer Answer C α) : Crowd Answer C W ι α :=
  let reply := Move.handler h move s.shared
  { s with
    shared := reply.2
    tasks := Function.update s.tasks i (next reply.1)
    log := s.log ++ (Move.outside? ⟨move, reply.1⟩).toList.map (i, ·) }

/-- Any program may move, but the lock is given to nobody while somebody has it. -/
inductive Step (h : Handler Answer W) : Crowd Answer C W ι α → Crowd Answer C W ι α → Prop where
  | lock {s : Crowd Answer C W ι α} : s.tasks i = .ask .lock next → s.owner = none →
      Step h s { s.moved h i .lock next with owner := some i, order := s.order ++ [i] }
  | unlock {s : Crowd Answer C W ι α} : s.tasks i = .ask .unlock next →
      Step h s { s.moved h i .unlock next with owner := none }
  | go {s : Crowd Answer C W ι α} : s.tasks i = .ask move next → move ≠ .lock → move ≠ .unlock →
      Step h s (s.moved h i move next)

/-- The next move of `i`, unless it is done or waits for the lock. -/
def advance (h : Handler Answer W) (s : Crowd Answer C W ι α) (i : ι) : Crowd Answer C W ι α :=
  match s.tasks i with
  | .done _ => s
  | .ask .lock next =>
    if s.owner.isNone then
      { s.moved h i .lock next with owner := some i, order := s.order ++ [i] }
    else s
  | .ask .unlock next => { s.moved h i .unlock next with owner := none }
  | .ask .read next => s.moved h i .read next
  | .ask (.write content) next => s.moved h i (.write content) next
  | .ask (.outside question) next => s.moved h i (.outside question) next

theorem reached_advance {h : Handler Answer W} {s : Crowd Answer C W ι α} {i : ι} :
    Relation.ReflTransGen (Step h) s (s.advance h i) := by
  rw [advance]
  split
  · exact .refl
  · next takes =>
    split
    · next free => exact .single (.lock takes (Option.isNone_iff_eq_none.mp free))
    · exact .refl
  · next gives => exact .single (.unlock gives)
  all_goals next moves => exact .single (.go moves nofun nofun)

/-- Every schedule is one of the orders in which the moves may come. -/
theorem reached_schedule {h : Handler Answer W} {s : Crowd Answer C W ι α} (schedule : List ι) :
    Relation.ReflTransGen (Step h) s (schedule.foldl (advance h) s) := by
  induction schedule generalizing s with
  | nil => exact .refl
  | cons i schedule ih => exact reached_advance.trans ih

theorem moved_tasks_of_ne {s : Crowd Answer C W ι α} {h : Handler Answer W} {i j : ι}
    {move : Move Q C} {next : Move.Reply Answer move → Sharer Answer C α} (other : j ≠ i) :
    (s.moved h i move next).tasks j = s.tasks j :=
  Function.update_of_ne other _ _

theorem moved_tasks_self {s : Crowd Answer C W ι α} {h : Handler Answer W} {i : ι}
    {move : Move Q C} {next : Move.Reply Answer move → Sharer Answer C α} :
    (s.moved h i move next).tasks i = next (Move.handler h move s.shared).1 :=
  Function.update_self ..

namespace Serialized

variable {h : Handler Answer W} {programs : ι → Sharer Answer C α} {first : C × W}
  {s s' : Crowd Answer C W ι α} {i : ι} {move : Move Q C}
  {next : Move.Reply Answer move → Sharer Answer C α}

theorem still_waiting (serialized : Serialized h programs first s) (owner : s.owner = some i)
    {j : ι} (waits : j ∉ s.order) : (s.moved h i move next).tasks j = programs j := by
  obtain ⟨earlier, order, -⟩ := serialized.owned i owner
  have other : j ≠ i := by
    rintro rfl
    exact waits (by simp [order])
  exact (moved_tasks_of_ne other).trans (serialized.waiting j waits)

theorem lock {next : Unit → Sharer Answer C α} (serialized : Serialized h programs first s)
    (guarded : ∀ i, (programs i).Guarded) (takes : s.tasks i = .ask .lock next)
    (free : s.owner = none) :
    Serialized h programs first
      { s.moved h i .lock next with owner := some i, order := s.order ++ [i] } := by
  have fresh : i ∉ s.order := serialized.not_mem_order (by simp [free]) (by simp [takes])
  have whole : programs i = .ask .lock next := (serialized.waiting i fresh).symm.trans takes
  obtain ⟨settled, logged⟩ := serialized.free free
  constructor
  case distinct => exact List.nodup_append.mpr ⟨serialized.distinct, List.nodup_singleton i, by
    simpa using fun _ had => ne_of_mem_of_not_mem had fresh⟩
  case waiting =>
    intro j new
    obtain ⟨waits, other⟩ := by simpa using new
    exact (moved_tasks_of_ne other).trans (serialized.waiting j waits)
  case done =>
    intro earlier j later order other
    have other : j ≠ i := fun same => other (same ▸ rfl)
    obtain ⟨between, order⟩ := (Lists.concat_eq_append_cons order).resolve_left (other ·.2)
    exact (moved_tasks_of_ne other).trans
      (serialized.done earlier j between order (by simp [free]))
  case free => nofun
  case owned =>
    rintro j ⟨⟩
    have start := guarded i
    rw [whole] at start
    cases start with
    | lock closing =>
      refine ⟨s.order, rfl, ?_, ?_, ?_⟩
      · rw [moved_tasks_self]
        exact closing
      · rw [moved_tasks_self, whole, ← settled]
        rfl
      · rw [moved_tasks_self, serial_concat, whole, ← settled, ← logged, Sharer.asked_ask]
        simp [moved, Move.outside?]

theorem unlock {next : Unit → Sharer Answer C α} (serialized : Serialized h programs first s)
    (guarded : ∀ i, (programs i).Guarded) (gives : s.tasks i = .ask .unlock next) :
    Serialized h programs first { s.moved h i .unlock next with owner := none } := by
  have owner := serialized.owner_of_move guarded gives (by simp)
  obtain ⟨earlier, order, closing, alone, logged⟩ := serialized.owned i owner
  rw [gives] at closing alone logged
  cases closing with
  | go _ staying => exact absurd rfl staying
  | @unlock _ value last =>
    have alone : (value, s.shared) = (programs i).alone h (settled h programs earlier first) := by
      rw [← alone, Sharer.alone, Program.run]
      exact congrArg (fun p : Sharer Answer C α => p.alone h s.shared) last.symm
    constructor
    case distinct => exact serialized.distinct
    case waiting => exact fun j => serialized.still_waiting owner
    case done =>
      intro front j later whole _
      by_cases other : j = i
      · subst other
        have same : front = earlier := by
          rcases Lists.concat_eq_append_cons (order.symm.trans whole) with ⟨same, -⟩ | ⟨between, rfl⟩
          · exact same
          · have distinct := serialized.distinct
            simp [order, List.nodup_middle] at distinct
        rw [same, ← alone]
        exact moved_tasks_self.trans last
      · exact (moved_tasks_of_ne other).trans
          (serialized.done front j later whole (by simpa [owner] using Ne.symm other))
    case free =>
      intro _
      change s.shared = settled h programs s.order first ∧
        s.log ++ [] = serial h programs s.order first
      refine ⟨?_, ?_⟩
      · rw [order, settled_concat, ← alone]
      · rw [← logged, Sharer.asked_ask, last]
        rfl
    case owned =>
      intro j owns
      cases owns

theorem go (serialized : Serialized h programs first s) (guarded : ∀ i, (programs i).Guarded)
    (moves : s.tasks i = .ask move next) (going : move ≠ .lock) (staying : move ≠ .unlock) :
    Serialized h programs first (s.moved h i move next) := by
  have owner := serialized.owner_of_move guarded moves going
  obtain ⟨earlier, order, closing, alone, logged⟩ := serialized.owned i owner
  rw [moves] at closing alone logged
  constructor
  case distinct => exact serialized.distinct
  case waiting => exact fun j => serialized.still_waiting owner
  case done =>
    intro front j later whole other
    have other : j ≠ i := fun same => other (same ▸ owner)
    exact (moved_tasks_of_ne other).trans
      (serialized.done front j later whole (by simpa [owner] using Ne.symm other))
  case free => simp [moved, owner]
  case owned =>
    intro j owns
    obtain rfl : i = j := by simpa [moved, owner] using owns
    refine ⟨earlier, order, ?_, ?_, ?_⟩
    · rw [moved_tasks_self]
      cases closing with
      | unlock => exact absurd rfl staying
      | go _ _ closing => exact closing _
    · rw [moved_tasks_self, ← alone]
      rfl
    · rw [Sharer.asked_ask, List.map_append, ← List.append_assoc] at logged
      rw [moved_tasks_self]
      exact logged

theorem step (serialized : Serialized h programs first s) (guarded : ∀ i, (programs i).Guarded)
    (step : Step h s s') : Serialized h programs first s' := by
  cases step with
  | lock takes free => exact serialized.lock guarded takes free
  | unlock gives => exact serialized.unlock guarded gives
  | go moves going staying => exact serialized.go guarded moves going staying

/-- Programs that take the lock first and give it back last. -/
theorem of_reached (guarded : ∀ i, (programs i).Guarded)
    (reached : Relation.ReflTransGen (Step h) (Crowd.start programs first) s) :
    Serialized h programs first s := by
  induction reached with
  | refl => exact start
  | tail _ step before => exact before.step guarded step

/-- Somebody can move until all are done. -/
theorem progress (serialized : Serialized h programs first s) (guarded : ∀ i, (programs i).Guarded)
    (unfinished : ∀ value, s.tasks i ≠ .done value) : ∃ s', Step h s s' := by
  cases owner : s.owner with
  | some j =>
    obtain ⟨_, _, closing, _⟩ := serialized.owned j owner
    generalize task : s.tasks j = p at closing
    cases closing with
    | unlock => exact ⟨_, .unlock task⟩
    | go going staying => exact ⟨_, .go task going staying⟩
  | none =>
    have start := guarded i
    rw [← serialized.waiting i (serialized.not_mem_order (by simp [owner]) unfinished)] at start
    generalize task : s.tasks i = p at start
    cases start with
    | idle value => exact absurd task (unfinished value)
    | lock => exact ⟨_, .lock task owner⟩

end Serialized
end Crowd
end GatedStartup
