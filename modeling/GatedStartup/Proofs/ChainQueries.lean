import GatedStartup.Proofs.Transcript
import GatedStartup.Scripted.Answers
import Mathlib.Data.List.Forall2

/-! What queries of a chain come to, one after another, when its strategies answer as they please.
The strategies that are run are those from the first to the one that hits. All that a query asks,
finds and leaves behind is what they ask, find and leave. -/
namespace GatedStartup.Lookup

variable {Q : Type} {Answer : Q → Type} {α W : Type}

/-- What an answer holds. A failure holds nothing. -/
def held : Except Miss (Option α) → Option α
  | .ok found => found
  | .error _ => none

/-- A strategy that is run, and the surroundings that it meets. -/
structure Attempt (Answer : Q → Type) (α W : Type) where
  strategy : Strategy Answer α
  met : W

namespace Attempt

variable (h : Handler Answer W) (a : Attempt Answer α W)

def answer : Except Miss (Option α) := (a.strategy.attempt.run h a.met).1

def left : W := (a.strategy.attempt.run h a.met).2

def asked : List (Exchange Answer) := a.strategy.attempt.events h a.met

/-- The value that is found, with the source of the strategy. -/
def hit? : Option (Resolved α) := (held (a.answer h)).map (⟨·, a.strategy.source⟩)

end Attempt

namespace Strategy

/-- The strategy hits on every call. -/
def Sure (h : Handler Answer W) (s : Strategy Answer α) : Prop :=
  ∀ w, ∃ value, (s.attempt.run h w).1 = .ok (some value)

/-- `s'` does what `s` does, but some of its failures are misses. -/
structure Softer (h : Handler Answer W) (s s' : Strategy Answer α) : Prop where
  source : s'.source = s.source
  answer : ∀ w, (s'.attempt.run h w).1 = (s.attempt.run h w).1 ∨
    (∃ miss, (s.attempt.run h w).1 = .error miss) ∧ (s'.attempt.run h w).1 = .ok none
  left : ∀ w, (s'.attempt.run h w).2 = (s.attempt.run h w).2

variable {h : Handler Answer W} {s s' : Strategy Answer α}

theorem Sure.hits (sure : s.Sure h) (w : W) : ∃ hit, (Attempt.mk s w).hit? h = some hit := by
  obtain ⟨value, finds⟩ := sure w
  exact ⟨⟨value, s.source⟩, by rw [Attempt.hit?, Attempt.answer, finds]; rfl⟩

theorem Softer.hit?_eq (softer : s.Softer h s') (w : W) :
    (Attempt.mk s' w).hit? h = (Attempt.mk s w).hit? h := by
  rw [Attempt.hit?, Attempt.hit?, Attempt.answer, Attempt.answer, softer.source]
  rcases softer.answer w with same | ⟨⟨miss, fails⟩, misses⟩
  · rw [same]
  · rw [fails, misses]
    rfl

end Strategy

/-- Each meets what the one before it has left. -/
inductive InTurn (h : Handler Answer W) : W → List (Attempt Answer α W) → W → Prop where
  | nil {w : W} : InTurn h w [] w
  | cons {a : Attempt Answer α W} {rest : List (Attempt Answer α W)} {w : W} :
      InTurn h (a.left h) rest w → InTurn h a.met (a :: rest) w

namespace Chain

/-- The strategies that a query runs. -/
def attempts (h : Handler Answer W) : Chain Answer α → W → List (Attempt Answer α W)
  | [], _ => []
  | strategy :: rest, w =>
    let first : Attempt Answer α W := ⟨strategy, w⟩
    first :: if (first.hit? h).isSome then [] else attempts h rest (first.left h)

variable {h : Handler Answer W} {chain chain' : Chain Answer α} {first : Attempt Answer α W}
  {hit : Resolved α}

theorem resolve_cons (strategy : Strategy Answer α) (rest : Chain Answer α) :
    resolve (strategy :: rest) = strategy.attempt >>= fun answer =>
      (held answer).elim rest.resolve fun value => pure (some ⟨value, strategy.source⟩) := by
  rw [resolve]
  refine congrArg (strategy.attempt >>= ·) (funext fun answer => ?_)
  rcases answer with miss | _ | value <;> rfl

/-- A hit ends the query. -/
theorem query_of_hit (hits : first.hit? h = some hit) (rest : Chain Answer α) :
    attempts h (first.strategy :: rest) first.met = [first] ∧
      (resolve (first.strategy :: rest)).run h first.met = (some hit, first.left h) ∧
      (resolve (first.strategy :: rest)).events h first.met = first.asked h := by
  obtain ⟨value, finds, rfl⟩ := Option.map_eq_some_iff.mp hits
  rw [Attempt.answer] at finds
  refine ⟨?_, ?_, ?_⟩
  · simp [attempts, hits]
  · rw [resolve_cons, Program.run_bind, finds]
    rfl
  · rw [resolve_cons, Program.events_bind, finds]
    exact List.append_nil _

/-- After a miss the query goes on from where the strategy has led. -/
theorem query_of_miss (misses : first.hit? h = none) (rest : Chain Answer α) :
    attempts h (first.strategy :: rest) first.met = first :: attempts h rest (first.left h) ∧
      (resolve (first.strategy :: rest)).run h first.met = (resolve rest).run h (first.left h) ∧
      (resolve (first.strategy :: rest)).events h first.met =
        first.asked h ++ (resolve rest).events h (first.left h) := by
  have finds := Option.map_eq_none_iff.mp misses
  rw [Attempt.answer] at finds
  refine ⟨?_, ?_, ?_⟩
  · simp [attempts, misses]
  · rw [resolve_cons, Program.run_bind, finds]
    rfl
  · rw [resolve_cons, Program.events_bind, finds]
    rfl

/-- The strategies that are run from `w`, and what a query has to do with them that has found
`found`, has asked `asked` and leaves `left`. -/
structure Tried (h : Handler Answer W) (chain : Chain Answer α) (w : W)
    (found : Option (Resolved α)) (asked : List (Exchange Answer)) (left : W) : Prop where
  /-- From the first, in the order of the chain. -/
  ordered : (chain.attempts h w).map (·.strategy) <+: chain
  /-- None but the last has hit. -/
  missed : ∀ a ∈ (chain.attempts h w).dropLast, a.hit? h = none
  result : found = (chain.attempts h w).findSome? (·.hit? h)
  /-- Nothing is found when all were run and none has hit, and only then. -/
  exhausted : found = none ↔
    (chain.attempts h w).map (·.strategy) = chain ∧ ∀ a ∈ chain.attempts h w, a.hit? h = none
  /-- The query does what they do one after another, and nothing else. -/
  inTurn : InTurn h w (chain.attempts h w) left
  transcript : asked = (chain.attempts h w).flatMap (·.asked h)

theorem Tried.of_hit (hits : first.hit? h = some hit) (rest : Chain Answer α) :
    Tried h (first.strategy :: rest) first.met (some hit) (first.asked h) (first.left h) := by
  obtain ⟨only, -, -⟩ := query_of_hit hits rest
  constructor
  · rw [only]
    exact List.prefix_append [first.strategy] rest
  · simp [only]
  · simp [only, hits]
  · simp [only, hits]
  · rw [only]
    exact .cons .nil
  · simp [only]

theorem Tried.of_miss {rest : Chain Answer α} {found : Option (Resolved α)}
    {asked : List (Exchange Answer)} {left : W} (misses : first.hit? h = none)
    (later : Tried h rest (first.left h) found asked left) :
    Tried h (first.strategy :: rest) first.met found (first.asked h ++ asked) left := by
  obtain ⟨more, -, -⟩ := query_of_miss misses rest
  constructor
  · rw [more, List.map_cons]
    exact List.cons_prefix_cons.mpr ⟨rfl, later.ordered⟩
  · intro a member
    have missed := later.missed
    rw [more] at member
    generalize attempts h rest (first.left h) = others at member missed
    rcases others with _ | ⟨next, others⟩
    · nomatch member
    · rw [List.dropLast_cons_cons] at member
      rcases List.mem_cons.mp member with rfl | inside
      · exact misses
      · exact missed a inside
  · rw [more, List.findSome?_cons, misses]
    exact later.result
  · rw [later.exhausted, more, List.map_cons, List.forall_mem_cons]
    simp [misses]
  · rw [more]
    exact .cons later.inTurn
  · rw [more, List.flatMap_cons, later.transcript]

theorem resolve_tried (h : Handler Answer W) (chain : Chain Answer α) (w : W) :
    Tried h chain w (chain.resolve.run h w).1 (chain.resolve.events h w)
      (chain.resolve.run h w).2 := by
  induction chain generalizing w with
  | nil => exact ⟨List.prefix_rfl, by simp [attempts], rfl, by simp [attempts, resolve], .nil, rfl⟩
  | cons strategy rest ih =>
    let first : Attempt Answer α W := ⟨strategy, w⟩
    cases hits : first.hit? h with
    | some hit =>
      obtain ⟨-, run, events⟩ := query_of_hit hits rest
      rw [run, events]
      exact .of_hit hits rest
    | none =>
      obtain ⟨-, run, events⟩ := query_of_miss hits rest
      rw [run, events]
      exact .of_miss hits (ih (first.left h))

inductive Call where
  | resolve
  /-- Finding nothing is to be this error. -/
  | resolveOr (exhausted : ConfigurationError)

inductive Outcome (α : Type) where
  | found (result : Option (Resolved α))
  | settled (result : Except ConfigurationError (Resolved α))

def call (chain : Chain Answer α) : Call → Program Answer (Outcome α)
  | .resolve => Outcome.found <$> chain.resolve
  | .resolveOr exhausted => Outcome.settled <$> chain.resolveOr exhausted

/-- A query, with what it met, asked, returned and left. -/
structure Query (Answer : Q → Type) (α W : Type) where
  call : Call
  met : W
  asked : List (Exchange Answer)
  outcome : Outcome α
  left : W

/-- Each query meets what the one before it has left. -/
def queriesIn (h : Handler Answer W) (chain : Chain Answer α) :
    List Call → W → List (Query Answer α W)
  | [], _ => []
  | c :: calls, w =>
    let run := (chain.call c).run h w
    ⟨c, w, (chain.call c).events h w, run.1, run.2⟩ :: queriesIn h chain calls run.2

/-- What a query returns when this is found. -/
def Call.outcome (found : Option (Resolved α)) : Call → Outcome α
  | .resolve => .found found
  | .resolveOr exhausted => .settled (found.elim (.error exhausted) .ok)

theorem run_call (c : Call) (w : W) :
    (chain.call c).run h w = (c.outcome (chain.resolve.run h w).1, (chain.resolve.run h w).2) := by
  cases c with
  | resolve => rw [call, Program.run_map, Call.outcome]
  | resolveOr exhausted =>
    rw [call, Program.run_map, resolveOr, Program.run_bind, Call.outcome]
    cases (chain.resolve.run h w).1 <;> rfl

theorem events_call (c : Call) (w : W) :
    (chain.call c).events h w = chain.resolve.events h w := by
  cases c with
  | resolve => rw [call, Program.events_map]
  | resolveOr exhausted =>
    rw [call, Program.events_map, resolveOr, Program.events_bind]
    cases (chain.resolve.run h w).1 <;> exact List.append_nil _

/-- A query is what the strategies that are run make of it. -/
def Lawful (h : Handler Answer W) (chain : Chain Answer α) (query : Query Answer α W) : Prop :=
  ∃ found, Tried h chain query.met found query.asked query.left ∧
    query.outcome = query.call.outcome found

theorem lawful_of_mem {query : Query Answer α W} {calls : List Call} {w : W}
    (member : query ∈ queriesIn h chain calls w) : Lawful h chain query := by
  induction calls generalizing w with
  | nil => nomatch member
  | cons c calls ih =>
    rcases List.mem_cons.mp member with rfl | later
    · refine ⟨(chain.resolve.run h w).1, ?_, ?_⟩
      · simpa only [events_call, run_call] using resolve_tried h chain w
      · rw [run_call]
    · exact ih later

variable {front : Chain Answer α} {strategy : Strategy Answer α}

/-- Nothing behind a strategy that always hits is run. -/
theorem attempts_shielded (sure : strategy.Sure h) (front rest : Chain Answer α) (w : W) :
    (attempts h (front ++ strategy :: rest) w).map (·.strategy) <+: front ++ [strategy] := by
  induction front generalizing w with
  | nil =>
    obtain ⟨hit, hits⟩ := sure.hits w
    obtain ⟨only, -, -⟩ := query_of_hit hits rest
    rw [List.nil_append, only]
    exact List.prefix_rfl
  | cons earlier front ih =>
    let first : Attempt Answer α W := ⟨earlier, w⟩
    rw [List.cons_append, List.cons_append]
    cases hits : first.hit? h with
    | some hit =>
      obtain ⟨only, -, -⟩ := query_of_hit hits (front ++ strategy :: rest)
      rw [only]
      exact List.prefix_append [earlier] _
    | none =>
      obtain ⟨more, -, -⟩ := query_of_miss hits (front ++ strategy :: rest)
      rw [more, List.map_cons]
      exact List.cons_prefix_cons.mpr ⟨rfl, ih (first.left h)⟩

/-- Failures that are taken for misses change no query. -/
theorem softer_query (softer : List.Forall₂ (Strategy.Softer h) chain chain') (w : W) :
    (chain'.attempts h w).map (·.met) = (chain.attempts h w).map (·.met) ∧
      chain'.resolve.run h w = chain.resolve.run h w := by
  induction softer generalizing w with
  | nil => exact ⟨rfl, rfl⟩
  | @cons s s' rest rest' soft _ ih =>
    let first : Attempt Answer α W := ⟨s, w⟩
    let first' : Attempt Answer α W := ⟨s', w⟩
    have same : first'.hit? h = first.hit? h := soft.hit?_eq w
    have left : first'.left h = first.left h := soft.left w
    cases hits : first.hit? h with
    | some hit =>
      obtain ⟨only, run, -⟩ := query_of_hit hits rest
      obtain ⟨only', run', -⟩ := query_of_hit (same.trans hits) rest'
      rw [only, only', run, run', left]
      exact ⟨rfl, rfl⟩
    | none =>
      obtain ⟨more, run, -⟩ := query_of_miss hits rest
      obtain ⟨more', run', -⟩ := query_of_miss (same.trans hits) rest'
      obtain ⟨met, later⟩ := ih (first.left h)
      rw [more, more', run, run', left, List.map_cons, List.map_cons, met]
      exact ⟨rfl, later⟩

/-- Two queries that differ in nothing but what their strategies ask. -/
structure Query.Same (h : Handler Answer W) (chain chain' : Chain Answer α)
    (query query' : Query Answer α W) : Prop where
  call : query'.call = query.call
  met : query'.met = query.met
  /-- As many strategies are run, and each meets the same. -/
  ran : (chain'.attempts h query'.met).map (·.met) = (chain.attempts h query.met).map (·.met)
  outcome : query'.outcome = query.outcome
  left : query'.left = query.left

theorem softer_queriesIn (softer : List.Forall₂ (Strategy.Softer h) chain chain')
    (calls : List Call) (w : W) :
    List.Forall₂ (Query.Same h chain chain') (queriesIn h chain calls w)
      (queriesIn h chain' calls w) := by
  induction calls generalizing w with
  | nil => exact .nil
  | cons c calls ih =>
    obtain ⟨ran, same⟩ := softer_query softer w
    have run : (chain'.call c).run h w = (chain.call c).run h w := by
      rw [run_call, run_call, same]
    rw [queriesIn, queriesIn, run]
    exact .cons ⟨rfl, rfl, ran, rfl, rfl⟩ (ih _)

/-- What holds of queries one after another. -/
structure Law (h : Handler Answer W) (chain : Chain Answer α) (calls : List Call) (w : W) :
    Prop where
  each : ∀ query ∈ queriesIn h chain calls w, Lawful h chain query
  /-- Behind a strategy that always hits none is ever run. -/
  shielded : ∀ front strategy rest, chain = front ++ strategy :: rest → strategy.Sure h →
    ∀ query ∈ queriesIn h chain calls w,
      (chain.attempts h query.met).map (·.strategy) <+: front ++ [strategy]
  /-- No failure counts for more than a miss. -/
  lenient : ∀ chain', List.Forall₂ (Strategy.Softer h) chain chain' →
    List.Forall₂ (Query.Same h chain chain') (queriesIn h chain calls w)
      (queriesIn h chain' calls w)

theorem queries_lawful (h : Handler Answer W) (chain : Chain Answer α) (calls : List Call) (w : W) :
    Law h chain calls w where
  each _ := lawful_of_mem
  shielded front strategy rest parts sure query _ := by
    subst parts
    exact attempts_shielded sure front rest query.met
  lenient chain' softer := softer_queriesIn softer calls w

/-- The first strategy fails, misses and then hits. What is behind it is run as long as it has to
be. -/
example :
    (queriesIn Scripted.Answers.surroundings
      [Scripted.Answers.strategy .registry 0, Scripted.Answers.strategy .cacheLookup 1]
      [.resolve, .resolveOr .missingRegion, .resolve]
      ⟨[(0, [.error ⟨.registry, "closed"⟩, .ok none, .ok (some "late")]),
        (1, [.ok (some "early"), .ok none])], []⟩).map
          (fun query => (query.asked.length, query.outcome)) =
    [(2, .found (some ⟨"early", .cacheLookup⟩)), (2, .settled (.error .missingRegion)),
      (1, .found (some ⟨"late", .registry⟩))] := by
  rfl

end Chain
end GatedStartup.Lookup
