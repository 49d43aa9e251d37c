import GatedStartup.Proofs.History
import GatedStartup.Proofs.Trimming

/-! One managed index over its whole life. It is ensured, destroyed and looked at any number of
times, by collaborators that change, and whatever it asks may be answered in any way. -/
namespace GatedStartup.Index

open Lookup

/-- The name of an index has text, and no white space around it. -/
theorem Definition.trimmed?_indexName? {d : Definition} {component : Option String} {name : String}
    (named : d.indexName? component = some name) : Text.trimmed? name = some name := by
  rcases Option.or_eq_some_iff.mp named with own | ⟨-, inherited⟩
  · exact Text.trimmed?_trimmed? own
  · obtain ⟨given, -, trimmed⟩ := Option.bind_eq_some_iff.mp inherited
    exact Text.trimmed?_trimmed? trimmed

namespace Managed

inductive Call where
  | ensure | destroy | bound

inductive Outcome where
  | ensured (result : Except Failure Handle)
  | destroyed (result : Except Failure Unit)
  | bound (handle : Option Handle)

def call (k : Collaborators) (x : Managed) : Call → Work (Outcome × Managed)
  | .ensure => do
    let (result, y) ← x.ensure k
    pure (.ensured result, y)
  | .destroy => do
    let (result, y) ← x.destroy
    pure (.destroyed result, y)
  | .bound => pure (.bound x.bound, x)

/-- A call, with all that was asked in it and the index before and after. -/
structure Turn where
  collaborators : Collaborators
  before : Managed
  asked : Transcript
  outcome : Outcome
  after : Managed

/-- The calls made so far. -/
inductive Lived : Managed → List Turn → Managed → Prop where
  | nil : Lived x [] x
  | cons {k : Collaborators} {c : Call} : (x.call k c).Ends t (outcome, y) → Lived y turns z →
      Lived x (⟨k, x, t, outcome, y⟩ :: turns) z

/-- All that a call can do. -/
inductive Answered (k : Collaborators) (x : Managed) : Transcript → Outcome → Managed → Prop where
  | ensured : Ensuring k x t result y → Answered k x t (.ensured result) y
  | destroyed : Destroyed x t result y → Answered k x t (.destroyed result) y
  | bound : Answered k x [] (.bound x.bound) x

namespace Turn

/-- An index was destroyed. -/
def Destroys (turn : Turn) : Prop :=
  ∃ service handle, ⟨.destroyIndex service handle, .ok ()⟩ ∈ turn.asked

/-- The index was unbound, and is bound to a handle with the service that supplied it. -/
structure Binds (turn : Turn) (b : Binding) : Prop where
  before : turn.before.binding = none
  after : turn.after.binding = some b
  outcome : turn.outcome = .ensured (.ok b.handle)
  supplied : ∃ name path,
    turn.asked.getLast? = some ⟨.findIndex b.service name path, some b.handle⟩

/-- Whoever asks for the index gets the handle, and nobody else is asked. -/
structure Answers (turn : Turn) (handle : Handle) : Prop where
  ensured : ∀ result, turn.outcome = .ensured result → result = .ok handle ∧ turn.asked = []
  bound : ∀ found, turn.outcome = .bound found → found = some handle

/-- An index is created after what is in front, where it was missed just before, by its own name and
at the region path that was resolved. -/
structure Creates (turn : Turn) (front : Transcript) (service : Ref .service) (name path : String)
    (fields : Fields) (answer : Except SearchError Unit) (later : Transcript) : Prop where
  ensured : ∃ result, turn.outcome = .ensured result
  unbound : turn.before.binding = none
  named : turn.before.definition.indexName? turn.before.component = some name
  trimmed : Text.trimmed? name = some name
  covers : fields = turn.before.definition.coverage
  missed : ∃ toPath toService,
    front = toPath ++ (toService ++ [⟨.findIndex service name path, none⟩]) ∧
    (∃ source, (turn.collaborators.resolveRegionPath turn.before.definition).Ends toPath
      (.ok ⟨path, source⟩)) ∧
    ∃ source, turn.collaborators.resolveService.Ends toService (some ⟨service, source⟩)
  handed : ∃ handed, AfterCreation service name path answer later handed ∧
    turn.after.binding = handed.map (⟨·, service⟩)

end Turn

section

variable {k : Collaborators} {x y z : Managed} {t : Transcript} {outcome : Outcome}
  {turns earlier later : List Turn}

theorem call_ends {c : Call} (ends : (x.call k c).Ends t (outcome, y)) :
    Answered k x t outcome y := by
  cases c with
  | ensure =>
    obtain ⟨front, ⟨result, after⟩, rest, rfl, ensured, done⟩ := Program.ends_bind.mp ends
    obtain ⟨rfl, rfl, rfl⟩ := by simpa using done
    simpa using .ensured (ensure_ensuring ensured)
  | destroy =>
    obtain ⟨front, ⟨result, after⟩, rest, rfl, destroyed, done⟩ := Program.ends_bind.mp ends
    obtain ⟨rfl, rfl, rfl⟩ := by simpa using done
    simpa using .destroyed (destroy_ends destroyed)
  | bound =>
    obtain ⟨rfl, rfl, rfl⟩ := by simpa using Program.ends_pure.mp ends
    exact .bound

namespace Answered

theorem definition_eq (answered : Answered k x t outcome y) :
    y.definition = x.definition ∧ y.component = x.component := by
  cases answered with
  | ensured ensuring => cases ensuring <;> exact ⟨rfl, rfl⟩
  | destroyed destroyed => cases destroyed <;> exact ⟨rfl, rfl⟩
  | bound => exact ⟨rfl, rfl⟩

/-- An index is destroyed by nothing but a call to do so, which asks nothing else. -/
theorem of_destruction (answered : Answered k x t outcome y) {service : Ref .service}
    {handle : Handle} {answer : Except SearchError Unit}
    (member : ⟨.destroyIndex service handle, answer⟩ ∈ t) :
    x.definition.destroyOnShutdown = true ∧ x.binding = some ⟨handle, service⟩ ∧
      t = [⟨.destroyIndex service handle, answer⟩] ∧
        outcome = .destroyed (answer.mapError .search) := by
  cases answered with
  | ensured ensuring => exact absurd member ensuring.destroyIndex_not_mem
  | destroyed destroyed =>
    cases destroyed with
    | spared => contradiction
    | refused flagged bound | gone flagged bound =>
      obtain ⟨⟨rfl, rfl⟩, rfl⟩ := by simpa using member
      exact ⟨flagged, bound, rfl, rfl⟩
  | bound => contradiction

theorem unbound_of_destroys (answered : Answered k x t outcome y)
    (destroys : Turn.Destroys ⟨k, x, t, outcome, y⟩) : y.binding = none := by
  obtain ⟨service, handle, member⟩ := destroys
  obtain ⟨-, -, rfl, rfl⟩ := answered.of_destruction member
  cases answered with
  | destroyed destroyed => cases destroyed; rfl

theorem keeps {b : Binding} (answered : Answered k x t outcome y) (bound : x.binding = some b) :
    y.binding = some b ∨ Turn.Destroys ⟨k, x, t, outcome, y⟩ := by
  cases answered with
  | ensured ensuring =>
    cases ensuring with
    | known | failed => exact .inl bound
    | bound unbound => simp [bound] at unbound
  | destroyed destroyed =>
    cases destroyed with
    | spared | refused => exact .inl bound
    | gone => exact .inr ⟨_, _, List.mem_cons_self⟩
  | bound => exact .inl bound

theorem binds {b : Binding} (answered : Answered k x t outcome y) (before : x.binding = none)
    (after : y.binding = some b) : Turn.Binds ⟨k, x, t, outcome, y⟩ b := by
  cases answered with
  | ensured ensuring =>
    cases ensuring with
    | known bound => simp [bound] at before
    | failed => simp [before] at after
    | bound _ acquired =>
      obtain rfl := Option.some.inj after
      obtain ⟨name, path, -, last⟩ := acquired.last
      exact ⟨before, rfl, rfl, name, path, last⟩
  | destroyed destroyed => cases destroyed <;> simp_all
  | bound => simp [before] at after

/-- What is bound was bound before and is spared, or is bound in this very call. -/
theorem kept_or_binds {b : Binding} (answered : Answered k x t outcome y)
    (held : y.binding = some b) :
    (x.binding = some b ∧ ¬ Turn.Destroys ⟨k, x, t, outcome, y⟩) ∨
      Turn.Binds ⟨k, x, t, outcome, y⟩ b := by
  have spared : ¬ Turn.Destroys ⟨k, x, t, outcome, y⟩ := fun destroys => by
    simpa [held] using answered.unbound_of_destroys destroys
  cases before : x.binding with
  | none => exact .inr (answered.binds before held)
  | some b' =>
    have same := (answered.keeps before).resolve_right spared
    obtain rfl := Option.some.inj (same.symm.trans held)
    exact .inl ⟨rfl, spared⟩

theorem answers {b : Binding} (answered : Answered k x t outcome y) (bound : x.binding = some b) :
    Turn.Answers ⟨k, x, t, outcome, y⟩ b.handle := by
  cases answered with
  | ensured ensuring =>
    cases ensuring with
    | known known =>
      obtain rfl := Option.some.inj (bound.symm.trans known)
      exact ⟨fun result same => by cases same; exact ⟨rfl, rfl⟩, by simp⟩
    | failed unbound | bound unbound => simp [bound] at unbound
  | destroyed => exact ⟨by simp, by simp⟩
  | bound => exact ⟨by simp, fun found same => by cases same; simp [Managed.bound, bound]⟩

theorem bound_of_ok {handle : Handle} (answered : Answered k x t (.ensured (.ok handle)) y) :
    ∃ b, y.binding = some b ∧ b.handle = handle := by
  cases answered with
  | ensured ensuring =>
    cases ensuring with
    | known bound => exact ⟨_, bound, rfl⟩
    | bound => exact ⟨_, rfl, rfl⟩

theorem unbound_of_failed {failure : Failure}
    (answered : Answered k x t (.ensured (.error failure)) y) : y.binding = none := by
  cases answered with
  | ensured ensuring => cases ensuring; assumption

theorem unchanged_of_refused {failure : Failure}
    (answered : Answered k x t (.destroyed (.error failure)) y) : y = x := by
  cases answered with
  | destroyed destroyed => cases destroyed; rfl

theorem creates (answered : Answered k x t outcome y) {front later : Transcript}
    {service : Ref .service} {name path : String} {fields : Fields}
    {answer : Except SearchError Unit}
    (whole : t = front ++ ⟨.createIndex service name path fields, answer⟩ :: later) :
    Turn.Creates ⟨k, x, t, outcome, y⟩ front service name path fields answer later := by
  have creates {result : Except Failure Handle} {found : Except Failure Binding}
      (unbound : x.binding = none) (acquired : Acquired k x t found)
      (after : y.binding = found.toOption) : Turn.Creates ⟨k, x, t, .ensured result, y⟩
        front service name path fields answer later := by
    obtain ⟨named, covers, missed, handed⟩ := acquired.of_creation whole
    have named := indexName_eq_ok.mp named
    exact ⟨⟨_, rfl⟩, unbound, named, Definition.trimmed?_indexName? named, covers, missed,
      after ▸ handed⟩
  cases answered with
  | ensured ensuring =>
    cases ensuring with
    | known => simp at whole
    | failed unbound acquired => exact creates unbound acquired unbound
    | bound unbound acquired => exact creates unbound acquired rfl
  | destroyed destroyed => cases destroyed <;> simp [List.cons_eq_append_iff] at whole
  | bound => simp at whole

end Answered

theorem Lived.split {turn : Turn} (lived : Lived x (earlier ++ turn :: later) z) :
    Lived x earlier turn.before ∧
      Answered turn.collaborators turn.before turn.asked turn.outcome turn.after ∧
        Lived turn.after later z := by
  induction earlier generalizing x with
  | nil =>
    cases lived with
    | cons ends rest => exact ⟨.nil, call_ends ends, rest⟩
  | cons first earlier ih =>
    cases lived with
    | cons ends rest =>
      obtain ⟨before, answered, after⟩ := ih rest
      exact ⟨.cons ends before, answered, after⟩

theorem Lived.mem {turn : Turn} (lived : Lived x turns z) (member : turn ∈ turns) :
    Answered turn.collaborators turn.before turn.asked turn.outcome turn.after := by
  obtain ⟨earlier, later, rfl⟩ := List.append_of_mem member
  exact lived.split.2.1

theorem Lived.definition_eq (lived : Lived x turns z) :
    z.definition = x.definition ∧ z.component = x.component := by
  induction lived with
  | nil => exact ⟨rfl, rfl⟩
  | cons ends _ ih =>
    obtain ⟨definition, component⟩ := (call_ends ends).definition_eq
    exact ⟨ih.1.trans definition, ih.2.trans component⟩

/-- What is bound stays bound until it is destroyed. -/
theorem Lived.keeps {b : Binding} (lived : Lived x turns z) (bound : x.binding = some b)
    (spared : ∀ turn ∈ turns, ¬ turn.Destroys) : z.binding = some b := by
  induction lived with
  | nil => exact bound
  | cons ends _ ih =>
    obtain ⟨first, rest⟩ := List.forall_mem_cons.mp spared
    exact ih (((call_ends ends).keeps bound).resolve_right first) rest

/-- What is bound was bound from the start, or was supplied in a call after which nothing was
destroyed. -/
theorem Lived.supplied {b : Binding} (lived : Lived x turns z) (bound : z.binding = some b) :
    (x.binding = some b ∧ ∀ turn ∈ turns, ¬ turn.Destroys) ∨
      ∃ earlier turn later, turns = earlier ++ turn :: later ∧ turn.Binds b ∧
        ∀ turn ∈ later, ¬ turn.Destroys := by
  induction lived with
  | nil => exact .inl ⟨bound, by simp⟩
  | cons ends _ ih =>
    obtain ⟨held, spared⟩ | ⟨earlier, turn, later, rfl, binds, spared⟩ := ih bound
    · rcases (call_ends ends).kept_or_binds held with ⟨before, kept⟩ | binds
      · exact .inl ⟨before, List.forall_mem_cons.mpr ⟨kept, spared⟩⟩
      · exact .inr ⟨[], _, _, rfl, binds, spared⟩
    · exact .inr ⟨_ :: earlier, turn, later, rfl, binds, spared⟩

/-- Nothing is destroyed but what was supplied since the index was last unbound. -/
theorem Lived.destroyed {turn : Turn} {service : Ref .service} {handle : Handle}
    {answer : Except SearchError Unit} (lived : Lived x (earlier ++ turn :: later) z)
    (unbound : x.binding = none) (member : ⟨.destroyIndex service handle, answer⟩ ∈ turn.asked) :
    x.definition.destroyOnShutdown = true ∧ turn.before.binding = some ⟨handle, service⟩ ∧
      turn.asked = [⟨.destroyIndex service handle, answer⟩] ∧
        ∃ before binding since, earlier = before ++ binding :: since ∧
          binding.Binds ⟨handle, service⟩ ∧ ∀ turn ∈ since, ¬ turn.Destroys := by
  obtain ⟨before, answered, -⟩ := lived.split
  obtain ⟨flagged, bound, alone, -⟩ := answered.of_destruction member
  rw [before.definition_eq.1] at flagged
  exact ⟨flagged, bound, alone, (before.supplied bound).resolve_left (by simp [unbound])⟩

/-- What holds of the calls on one managed index, whatever it is answered. -/
structure Lifespan (d : Definition) (component : Option String) (turns : List Turn) : Prop where
  same : ∀ turn ∈ turns, turn.before.definition = d ∧ turn.before.component = component
  /-- Once an index was handed out the same is handed out until it is destroyed. -/
  answers : ∀ earlier first between next later handle,
    turns = earlier ++ first :: (between ++ next :: later) →
      first.outcome = .ensured (.ok handle) → (∀ turn ∈ between, ¬ turn.Destroys) →
        next.Answers handle
  unbound_of_failed : ∀ turn ∈ turns, ∀ failure,
    turn.outcome = .ensured (.error failure) → turn.after.binding = none
  unchanged_of_refused : ∀ turn ∈ turns, ∀ failure,
    turn.outcome = .destroyed (.error failure) → turn.after = turn.before
  /-- Only what is bound is destroyed, and by the service that supplied it. -/
  destroyed : ∀ earlier turn later service handle answer,
    turns = earlier ++ turn :: later → ⟨.destroyIndex service handle, answer⟩ ∈ turn.asked →
      d.destroyOnShutdown = true ∧ turn.before.binding = some ⟨handle, service⟩ ∧
        turn.asked = [⟨.destroyIndex service handle, answer⟩] ∧
          ∃ before binding since, earlier = before ++ binding :: since ∧
            binding.Binds ⟨handle, service⟩ ∧ ∀ turn ∈ since, ¬ turn.Destroys
  rebound : ∀ earlier first between second later,
    turns = earlier ++ first :: (between ++ second :: later) → first.Destroys →
      second.Destroys → ∃ turn ∈ between, ∃ b, turn.Binds b
  creates : ∀ turn ∈ turns, ∀ front service name path fields answer later,
    turn.asked = front ++ ⟨.createIndex service name path fields, answer⟩ :: later →
      turn.Creates front service name path fields answer later

theorem Lived.lifespan {d : Definition} {component : Option String}
    (lived : Lived (unbound d component) turns z) : Lifespan d component turns := by
  constructor
  case same =>
    intro turn member
    obtain ⟨earlier, later, rfl⟩ := List.append_of_mem member
    exact lived.split.1.definition_eq
  case answers =>
    rintro earlier first between next later handle rfl ok spared
    obtain ⟨-, answered, rest⟩ := lived.split
    obtain ⟨b, bound, rfl⟩ := (ok ▸ answered).bound_of_ok
    obtain ⟨between, answered, -⟩ := rest.split
    exact answered.answers (between.keeps bound spared)
  case unbound_of_failed =>
    exact fun turn member failure failed => (failed ▸ lived.mem member).unbound_of_failed
  case unchanged_of_refused =>
    exact fun turn member failure refused => (refused ▸ lived.mem member).unchanged_of_refused
  case destroyed =>
    rintro earlier turn later service handle answer rfl member
    exact lived.destroyed rfl member
  case rebound =>
    rintro earlier first between second later rfl destroyed ⟨service, handle, member⟩
    obtain ⟨-, answered, rest⟩ := lived.split
    obtain ⟨-, -, -, _, turn, _, rfl, binds, -⟩ :=
      rest.destroyed (answered.unbound_of_destroys destroyed) member
    exact ⟨turn, by simp, _, binds⟩
  case creates => exact fun turn member _ _ _ _ _ _ _ => (lived.mem member).creates

section

variable (h : Surroundings W) (calls : ι → Collaborators × Call)

/-- The turns that calls come to in given surroundings, by caller. -/
def turnsIn : List ι → Managed → W → List (ι × Turn)
  | [], _, _ => []
  | i :: order, x, w =>
    let (k, c) := calls i
    let ((outcome, y), after) := (x.call k c).run h w
    (i, ⟨k, x, (x.call k c).events h w, outcome, y⟩) :: turnsIn order y after

/-- The index and the surroundings after them. -/
def endIn : List ι → Managed → W → Managed × W
  | [], x, w => (x, w)
  | i :: order, x, w =>
    let (k, c) := calls i
    let ((_, y), after) := (x.call k c).run h w
    endIn order y after

theorem lived_turnsIn (order : List ι) (x : Managed) (w : W) :
    Lived x ((turnsIn h calls order x w).map (·.2)) (endIn h calls order x w).1 := by
  induction order generalizing x w with
  | nil => exact .nil
  | cons i order ih => exact .cons (Program.ends_events h (x.call _ _) w) (ih _ _)

end

end
end Managed
end GatedStartup.Index

namespace GatedStartup.Trial

open Index Managed Rehearsal

/-- The region is there, and no index on it. -/
def bare : Stage :=
  { stage "orders" with
    regions := ⟨[("/orders", ⟨"orders", "/orders"⟩)]⟩
    store := Engine.IndexStore.empty }

/-- An index that is created, looked at, destroyed, and created again. -/
def comeAndGone : List Turn :=
  (turnsIn setting.surroundings (collaborators, ·) [.ensure, .bound, .destroy, .ensure]
    (unbound orders none) bare).map (·.2)

theorem comeAndGone_lifespan : Lifespan orders none comeAndGone :=
  (lived_turnsIn ..).lifespan

example : comeAndGone.map (·.asked.length) = [3, 0, 1, 3] := by decide

end GatedStartup.Trial
