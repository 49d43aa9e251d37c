import GatedStartup.Proofs.History
import Mathlib.Data.List.Forall2

/-! What collaborators come to over any number of calls, while the registry and the caches answer
as they please. What is injected first stays; all else is looked up anew each time, and a registry
that fails is as good as one that finds nothing. -/
namespace GatedStartup

/-- The answer stays, or is a miss where the registry had failed. -/
inductive Request.Softer : (question : Request) → question.Reply → question.Reply → Prop where
  | same : Softer question answer answer
  | cache : Softer (.cacheComponent registry) (.error error) (.ok none)
  | service : Softer (.serviceComponent registry) (.error error) (.ok none)

/-- The same question with a softer answer. -/
def Exchange.Softer (e e' : Event) : Prop :=
  ∃ answer, e' = ⟨e.question, answer⟩ ∧ e.question.Softer e.answer answer

/-- `h'` does what `h` does, but some failures of the registry are misses. -/
def Softens (h h' : Surroundings W) : Prop :=
  ∀ question w, question.Softer (h question w).1 (h' question w).1 ∧
    (h' question w).2 = (h question w).2

namespace Program

/-- Whether the registry fails or finds nothing, the program goes on in the same way. -/
def Forgives : Work α → Prop
  | .done _ => True
  | .ask question next =>
    (∀ answer answer', question.Softer answer answer' → next answer = next answer') ∧
      ∀ answer, (next answer).Forgives

variable {p : Work α} {f : α → Work β}

@[simp] theorem forgives_pure (value : α) : (pure value : Work α).Forgives := trivial

theorem Forgives.bind (first : p.Forgives) (rest : ∀ value, (f value).Forgives) :
    (p >>= f).Forgives := by
  change (p.bind f).Forgives
  induction p with
  | done value => exact rest value
  | ask question next ih =>
    exact ⟨fun answer answer' softer => congrArg (·.bind f) (first.1 answer answer' softer),
      fun answer => ih answer (first.2 answer)⟩

/-- A program that forgives asks the same, ends the same and leaves the same behind when failures
are taken for misses. -/
theorem Forgives.run {h h' : Surroundings W} (forgives : p.Forgives) (softens : Softens h h')
    (w : W) :
    p.run h' w = p.run h w ∧ List.Forall₂ Exchange.Softer (p.events h w) (p.events h' w) := by
  induction p generalizing w with
  | done value => exact ⟨rfl, .nil⟩
  | ask question next ih =>
    obtain ⟨softer, same⟩ := softens question w
    obtain ⟨run, events⟩ := ih (h question w).1 (forgives.2 _) (h question w).2
    have next_eq := forgives.1 _ _ softer
    change (next (h' question w).1).run h' (h' question w).2 = _ ∧
      List.Forall₂ _ (⟨question, (h question w).1⟩ :: (next (h question w).1).events h _)
        (⟨question, (h' question w).1⟩ :: (next (h' question w).1).events h' (h' question w).2)
    rw [← next_eq, same]
    exact ⟨run, .cons ⟨_, rfl, softer⟩ events⟩

end Program

namespace Lookup

/-- What the registry finds. A failure finds nothing. -/
def hit : Except LookupError (Option α) → Option α
  | .ok found => found
  | .error _ => none

/-- What the registry, if there is one, finds now. -/
def Collaborators.consult (k : Collaborators)
    (component : Ref .registry → Work (Except LookupError (Option α))) : Work (Option α) :=
  match k.registry with
  | none => pure none
  | some registry => hit <$> component registry

/-- All that the registry can find. -/
inductive Consulted (component : Ref .registry → Work (Except LookupError (Option α))) :
    Option (Ref .registry) → Transcript → Option α → Prop where
  | nobody : Consulted component none [] none
  | asked : (component registry).Ends t answer → Consulted component (some registry) t (hit answer)

/-- The cache that was injected, and else what the registry finds now. -/
inductive CacheFound (registry : Option (Ref .registry)) :
    Option (Ref .cache) → Transcript → Option (Resolved (Ref .cache)) → Prop where
  | explicit : CacheFound registry (some cache) [] (some ⟨cache, .explicit⟩)
  | current : Consulted (fun registry => ask (.cacheComponent registry)) registry t found →
      CacheFound registry none t (found.map (⟨·, .registry⟩))

/-- The service that was injected, and else what the registry finds now, or the cache offers that
is found now. -/
inductive ServiceFound (registry : Option (Ref .registry)) (cache : Option (Ref .cache)) :
    Option (Ref .service) → Transcript → Option (Resolved (Ref .service)) → Prop where
  | explicit : ServiceFound registry cache (some service) [] (some ⟨service, .explicit⟩)
  | current :
      Consulted (fun registry => ask (.serviceComponent registry)) registry t (some service) →
      ServiceFound registry cache none t (some ⟨service, .registry⟩)
  | accessor : Consulted (fun registry => ask (.serviceComponent registry)) registry front none →
      CacheFound registry cache middle (some resolved) →
      ServiceFound registry cache none (front ++ (middle ++ [⟨.serviceOf resolved.value, found⟩]))
        (found.map (⟨·, .cacheAccessor⟩))
  | nowhere : Consulted (fun registry => ask (.serviceComponent registry)) registry front none →
      CacheFound registry cache rest none → ServiceFound registry cache none (front ++ rest) none

namespace Chain

section

variable {Q : Type} {Answer : Q → Type} {rest : Chain Answer α} {source : Source}
  {find : Program Answer (Option α)} {t : List (Exchange Answer)} {found : Option (Resolved α)}

theorem resolve_value {value : Option α} :
    resolve (.value source value :: rest) =
      value.elim rest.resolve fun value => pure (some ⟨value, source⟩) := by
  cases value <;> rfl

theorem resolve_finding :
    resolve (.finding source find :: rest) =
      find >>= fun found => found.elim rest.resolve fun value => pure (some ⟨value, source⟩) := by
  rw [resolve, Strategy.finding, bind_assoc]
  refine congrArg (find >>= ·) (funext fun found => ?_)
  cases found <;> rfl

theorem ends_finding (ends : (resolve (.finding source find :: rest)).Ends t found) :
    (∃ value, find.Ends t (some value) ∧ found = some ⟨value, source⟩) ∨
      ∃ front later, t = front ++ later ∧ find.Ends front none ∧ rest.resolve.Ends later found := by
  rw [resolve_finding] at ends
  obtain ⟨front, attempt, later, rfl, finds, goes⟩ := Program.ends_bind.mp ends
  cases attempt with
  | none => exact .inr ⟨front, later, rfl, finds, goes⟩
  | some value =>
    obtain ⟨rfl, rfl⟩ := Program.ends_pure.mp goes
    exact .inl ⟨value, by simpa using finds, rfl⟩

end

variable {k : Collaborators} {rest : Chain Request.Reply α} {source : Source}
  {component : Ref .registry → Work (Except LookupError (Option α))}

/-- A registry that fails is passed over like one that finds nothing. -/
theorem resolve_fromRegistry :
    resolve (k.fromRegistry component :: rest) =
      resolve (.finding .registry (k.consult component) :: rest) := by
  rw [resolve, resolve_finding, Collaborators.fromRegistry, Collaborators.consult]
  cases k.registry with
  | none => rfl
  | some registry =>
    change _ = (hit <$> component registry) >>= _
    rw [bind_assoc, ← bind_pure_comp, bind_assoc]
    refine congrArg (component registry >>= ·) (funext fun answer => ?_)
    rcases answer with error | found | value <;> rfl

theorem forgives_value {value : Option α} (later : rest.resolve.Forgives) :
    (resolve (.value source value :: rest)).Forgives := by
  rw [resolve_value]
  cases value with
  | none => exact later
  | some value => exact Program.forgives_pure _

theorem forgives_finding {find : Work (Option α)} (forgives : find.Forgives)
    (later : rest.resolve.Forgives) : (resolve (.finding source find :: rest)).Forgives := by
  rw [resolve_finding]
  refine forgives.bind fun found => ?_
  cases found with
  | none => exact later
  | some value => exact Program.forgives_pure _

theorem forgives_nil : (resolve ([] : Chain Request.Reply α)).Forgives := Program.forgives_pure _

end Chain

namespace Collaborators

variable {k : Collaborators} {d : Index.Definition} {t : Transcript}

theorem consult_ends {component : Ref .registry → Work (Except LookupError (Option α))}
    {found : Option α} (ends : (k.consult component).Ends t found) :
    Consulted component k.registry t found := by
  rw [consult] at ends
  cases registered : k.registry with
  | none =>
    rw [registered] at ends
    obtain ⟨rfl, rfl⟩ := Program.ends_pure.mp ends
    exact .nobody
  | some registry =>
    simp only [registered, ← bind_pure_comp] at ends
    obtain ⟨front, answer, rest, rfl, asked, done⟩ := Program.ends_bind.mp ends
    obtain ⟨rfl, rfl⟩ := Program.ends_pure.mp done
    rw [List.append_nil]
    exact .asked asked

theorem resolveCache_ends {found : Option (Resolved (Ref .cache))}
    (ends : k.resolveCache.Ends t found) : CacheFound k.registry k.cache t found := by
  rw [resolveCache, cacheChain, Chain.resolve_value] at ends
  cases injected : k.cache with
  | some cache =>
    rw [injected] at ends
    obtain ⟨rfl, rfl⟩ := Program.ends_pure.mp ends
    exact .explicit
  | none =>
    rw [injected, Option.elim_none, Chain.resolve_fromRegistry] at ends
    rcases Chain.ends_finding ends with ⟨cache, hits, rfl⟩ | ⟨front, later, rfl, misses, done⟩
    · exact .current (consult_ends hits)
    · obtain ⟨rfl, rfl⟩ := Program.ends_pure.mp done
      rw [List.append_nil]
      exact .current (consult_ends misses)

theorem serviceOfCache_ends {found : Option (Ref .service)}
    (ends : k.serviceOfCache.Ends t found) :
    (∃ front cache, CacheFound k.registry k.cache front (some cache) ∧
      t = front ++ [⟨.serviceOf cache.value, found⟩]) ∨
        CacheFound k.registry k.cache t none ∧ found = none := by
  obtain ⟨front, cache, rest, rfl, caches, offers⟩ := Program.ends_bind.mp ends
  cases cache with
  | none =>
    obtain ⟨rfl, rfl⟩ := Program.ends_pure.mp offers
    rw [List.append_nil]
    exact .inr ⟨resolveCache_ends caches, rfl⟩
  | some cache =>
    obtain rfl := ends_ask.mp offers
    exact .inl ⟨front, cache, resolveCache_ends caches, rfl⟩

theorem resolveService_ends {found : Option (Resolved (Ref .service))}
    (ends : k.resolveService.Ends t found) :
    ServiceFound k.registry k.cache k.service t found := by
  rw [resolveService, serviceChain, Chain.resolve_value] at ends
  cases injected : k.service with
  | some service =>
    rw [injected] at ends
    obtain ⟨rfl, rfl⟩ := Program.ends_pure.mp ends
    exact .explicit
  | none =>
    rw [injected, Option.elim_none, Chain.resolve_fromRegistry] at ends
    rcases Chain.ends_finding ends with ⟨service, hits, rfl⟩ | ⟨front, later, rfl, misses, ends⟩
    · exact .current (consult_ends hits)
    have missed := consult_ends misses
    rcases Chain.ends_finding ends with ⟨service, offers, rfl⟩ | ⟨later, last, rfl, offers, done⟩
    · rcases serviceOfCache_ends offers with ⟨middle, cache, caches, rfl⟩ | ⟨-, nothing⟩
      · exact .accessor missed caches
      · contradiction
    · obtain ⟨rfl, rfl⟩ := Program.ends_pure.mp done
      rw [List.append_nil]
      rcases serviceOfCache_ends offers with ⟨middle, cache, caches, rfl⟩ | ⟨caches, -⟩
      · exact .accessor missed caches
      · exact .nowhere missed caches

theorem forgives_consult {component : Ref .registry → Work (Except LookupError (Option α))}
    (forgives : ∀ registry, (hit <$> component registry).Forgives) :
    (k.consult component).Forgives := by
  rw [consult]
  cases k.registry with
  | none => exact Program.forgives_pure _
  | some registry => exact forgives registry

theorem forgives_resolveCache : k.resolveCache.Forgives := by
  rw [resolveCache, cacheChain]
  apply Chain.forgives_value
  rw [Chain.resolve_fromRegistry]
  refine Chain.forgives_finding (forgives_consult fun registry => ?_) Chain.forgives_nil
  exact ⟨fun _ _ softer => by cases softer <;> rfl, fun _ => trivial⟩

theorem forgives_resolveService : k.resolveService.Forgives := by
  rw [resolveService, serviceChain]
  apply Chain.forgives_value
  rw [Chain.resolve_fromRegistry]
  refine Chain.forgives_finding (forgives_consult fun registry => ?_)
    (Chain.forgives_finding (forgives_resolveCache.bind fun cache => ?_) Chain.forgives_nil)
  · exact ⟨fun _ _ softer => by cases softer <;> rfl, fun _ => trivial⟩
  · cases cache with
    | none => exact Program.forgives_pure _
    | some cache => exact ⟨fun _ _ softer => by cases softer; rfl, fun _ => trivial⟩

theorem forgives_resolveRegion : (k.resolveRegion d).Forgives := by
  rw [resolveRegion, regionChain]
  apply Chain.forgives_value
  refine Chain.forgives_finding ?_ Chain.forgives_nil
  rw [regionAtPath]
  cases d.configuredPath? with
  | none => exact Program.forgives_pure _
  | some path =>
    refine forgives_resolveCache.bind fun cache => ?_
    cases cache with
    | none => exact Program.forgives_pure _
    | some cache => exact ⟨fun _ _ softer => by cases softer; rfl, fun _ => trivial⟩

theorem forgives_resolveRegionPath : (k.resolveRegionPath d).Forgives := by
  rw [resolveRegionPath, Chain.resolveOr, regionPathChain]
  refine .bind (Chain.forgives_finding ?_ (Chain.forgives_value Chain.forgives_nil)) fun found => ?_
  · refine forgives_resolveRegion.bind fun region => ?_
    cases region <;> exact Program.forgives_pure _
  · cases found <;> exact Program.forgives_pure _

/-- With nothing injected yet. -/
def fresh (registry : Option (Ref .registry)) : Collaborators := ⟨none, none, registry⟩

inductive Call where
  | setCache (cache : Ref .cache)
  | setService (service : Ref .service)
  | cache
  | service
  | region (d : Index.Definition)
  | regionPath (d : Index.Definition)

inductive Outcome where
  | set (accepted : Bool)
  | cache (found : Option (Resolved (Ref .cache)))
  | service (found : Option (Resolved (Ref .service)))
  | region (found : Option (Resolved Index.Region))
  | regionPath (result : Except ConfigurationError (Resolved String))

namespace Call

/-- The cache that the call is to inject. -/
def cache? : Call → Option (Ref .cache)
  | .setCache given => some given
  | _ => none

def service? : Call → Option (Ref .service)
  | .setService given => some given
  | _ => none

end Call

def call (k : Collaborators) : Call → Work (Outcome × Collaborators)
  | .setCache cache =>
    let (accepted, k') := k.setCache cache
    pure (.set accepted, k')
  | .setService service =>
    let (accepted, k') := k.setService service
    pure (.set accepted, k')
  | .cache => do
    let found ← k.resolveCache
    pure (.cache found, k)
  | .service => do
    let found ← k.resolveService
    pure (.service found, k)
  | .region d => do
    let found ← k.resolveRegion d
    pure (.region found, k)
  | .regionPath d => do
    let result ← k.resolveRegionPath d
    pure (.regionPath result, k)

/-- A call, with all that was asked in it and the collaborators before and after. -/
structure Turn where
  before : Collaborators
  call : Call
  asked : Transcript
  outcome : Outcome
  after : Collaborators

/-- The turns that calls come to in given surroundings. -/
def turnsIn (h : Surroundings W) : List Call → Collaborators → W → List Turn
  | [], _, _ => []
  | c :: calls, k, w =>
    let ((outcome, k'), after) := (k.call c).run h w
    ⟨k, c, (k.call c).events h w, outcome, k'⟩ :: turnsIn h calls k' after

/-- The first cache that was to be injected. -/
def firstCache (turns : List Turn) : Option (Ref .cache) := turns.findSome? (·.call.cache?)

def firstService (turns : List Turn) : Option (Ref .service) := turns.findSome? (·.call.service?)

/-- The same turn, but that some failures of the registry are misses. -/
structure Turn.Softer (turn turn' : Turn) : Prop where
  before : turn'.before = turn.before
  call : turn'.call = turn.call
  asked : List.Forall₂ Exchange.Softer turn.asked turn'.asked
  outcome : turn'.outcome = turn.outcome
  after : turn'.after = turn.after

/-- What holds of a turn after the earlier ones. -/
structure Lawful (registry : Option (Ref .registry)) (earlier : List Turn) (turn : Turn) :
    Prop where
  /-- What was injected first is held, whatever was to be injected since. -/
  held : turn.before = ⟨firstCache earlier, firstService earlier, registry⟩
  /-- The first is accepted. A later one is turned down and changes nothing. -/
  setCache : ∀ cache, turn.call = .setCache cache →
    turn.outcome = .set (firstCache earlier).isNone ∧
      ((firstCache earlier).isSome → turn.after = turn.before)
  setService : ∀ service, turn.call = .setService service →
    turn.outcome = .set (firstService earlier).isNone ∧
      ((firstService earlier).isSome → turn.after = turn.before)
  looked : turn.call.cache? = none → turn.call.service? = none → turn.after = turn.before
  cache : turn.call = .cache → ∃ found, turn.outcome = .cache found ∧
    CacheFound registry (firstCache earlier) turn.asked found
  service : turn.call = .service → ∃ found, turn.outcome = .service found ∧
    ServiceFound registry (firstCache earlier) (firstService earlier) turn.asked found
  /-- Once there is a cache the registry is not asked for one, whatever is looked up. -/
  spared : (firstCache earlier).isSome →
    ∀ e ∈ turn.asked, ∀ registry, e.question ≠ .cacheComponent registry

section

variable {k' : Collaborators} {outcome : Outcome} {c : Call}

theorem setCache_eq (cache : Ref .cache) :
    k.setCache cache = (k.cache.isNone, ⟨k.cache.or (some cache), k.service, k.registry⟩) := by
  rcases k with ⟨_ | _, _, _⟩ <;> rfl

theorem setService_eq (service : Ref .service) :
    k.setService service =
      (k.service.isNone, ⟨k.cache, k.service.or (some service), k.registry⟩) := by
  rcases k with ⟨_, _ | _, _⟩ <;> rfl

theorem call_after (ends : (k.call c).Ends t (outcome, k')) :
    k' = ⟨k.cache.or c.cache?, k.service.or c.service?, k.registry⟩ := by
  cases c with
  | setCache cache =>
    rw [call, setCache_eq] at ends
    obtain ⟨-, same⟩ := Program.ends_pure.mp ends
    obtain ⟨-, rfl⟩ := Prod.mk.inj same
    simp [Call.cache?, Call.service?]
  | setService service =>
    rw [call, setService_eq] at ends
    obtain ⟨-, same⟩ := Program.ends_pure.mp ends
    obtain ⟨-, rfl⟩ := Prod.mk.inj same
    simp [Call.cache?, Call.service?]
  | _ =>
    obtain ⟨_, _, _, _, _, done⟩ := Program.ends_bind.mp ends
    obtain ⟨-, same⟩ := Program.ends_pure.mp done
    obtain ⟨-, rfl⟩ := Prod.mk.inj same
    simp [Call.cache?, Call.service?]

/-- A call changes nothing unless it is the first to inject something. -/
theorem call_keeps (ends : (k.call c).Ends t (outcome, k'))
    (cache : k.cache.isSome ∨ c.cache? = none) (service : k.service.isSome ∨ c.service? = none) :
    k' = k := by
  have kept {β : Type} {held given : Option β} (stays : held.isSome ∨ given = none) :
      held.or given = held := by
    rcases stays with some | rfl
    · exact Option.or_of_isSome some
    · exact Option.or_none
  rw [call_after ends, kept cache, kept service]

theorem setCache_ends {cache : Ref .cache}
    (ends : (k.call (.setCache cache)).Ends t (outcome, k')) :
    outcome = .set k.cache.isNone := by
  rw [call, setCache_eq] at ends
  exact (Prod.mk.inj (Program.ends_pure.mp ends).2).1

theorem setService_ends {service : Ref .service}
    (ends : (k.call (.setService service)).Ends t (outcome, k')) :
    outcome = .set k.service.isNone := by
  rw [call, setService_eq] at ends
  exact (Prod.mk.inj (Program.ends_pure.mp ends).2).1

theorem cache_ends (ends : (k.call .cache).Ends t (outcome, k')) :
    ∃ found, outcome = .cache found ∧ CacheFound k.registry k.cache t found := by
  obtain ⟨front, found, _, rfl, resolved, done⟩ := Program.ends_bind.mp ends
  obtain ⟨rfl, same⟩ := Program.ends_pure.mp done
  obtain ⟨rfl, -⟩ := Prod.mk.inj same
  rw [List.append_nil]
  exact ⟨found, rfl, resolveCache_ends resolved⟩

theorem service_ends (ends : (k.call .service).Ends t (outcome, k')) :
    ∃ found, outcome = .service found ∧ ServiceFound k.registry k.cache k.service t found := by
  obtain ⟨front, found, _, rfl, resolved, done⟩ := Program.ends_bind.mp ends
  obtain ⟨rfl, same⟩ := Program.ends_pure.mp done
  obtain ⟨rfl, -⟩ := Prod.mk.inj same
  rw [List.append_nil]
  exact ⟨found, rfl, resolveService_ends resolved⟩

theorem forgives_call : (k.call c).Forgives := by
  cases c with
  | setCache | setService => exact Program.forgives_pure _
  | cache => exact forgives_resolveCache.bind fun _ => Program.forgives_pure _
  | service => exact forgives_resolveService.bind fun _ => Program.forgives_pure _
  | region d => exact forgives_resolveRegion.bind fun _ => Program.forgives_pure _
  | regionPath d => exact forgives_resolveRegionPath.bind fun _ => Program.forgives_pure _

/-- Once there is a cache, whatever is looked up, the registry is not asked for one. -/
theorem asks_call_of_cache (injected : k.cache.isSome) (c : Call) :
    (k.call c).Asks fun request => ∀ registry, request ≠ .cacheComponent registry := by
  have cache :
      k.resolveCache.Asks fun request => ∀ registry, request ≠ .cacheComponent registry := by
    obtain ⟨cache, found⟩ := Option.isSome_iff_exists.mp injected
    rw [resolveCache, cacheChain, Chain.resolve_value, found]
    exact Program.asks_pure _
  cases c with
  | setCache | setService => exact Program.asks_pure _
  | cache => exact .bind cache fun _ => Program.asks_pure _
  | service =>
    exact .bind (asks_resolveService_of cache fun _ _ => id) fun _ => Program.asks_pure _
  | region d =>
    exact .bind (asks_resolveRegion_of cache fun _ _ => id) fun _ => Program.asks_pure _
  | regionPath d =>
    exact .bind (asks_resolveRegionPath_of cache fun _ _ => id) fun _ => Program.asks_pure _

variable {h h' : Surroundings W} {calls : List Call} {w : W} {registry : Option (Ref .registry)}
  {earlier later turns : List Turn} {turn : Turn}

theorem firstCache_cons :
    firstCache (turn :: turns) = turn.call.cache?.or (firstCache turns) := by
  rw [firstCache, List.findSome?_cons]
  cases turn.call.cache? <;> rfl

theorem firstService_cons :
    firstService (turn :: turns) = turn.call.service?.or (firstService turns) := by
  rw [firstService, List.findSome?_cons]
  cases turn.call.service? <;> rfl

/-- Before each turn there is what was injected first, from the start or in an earlier turn. -/
theorem turnsIn_split (split : turnsIn h calls k w = earlier ++ turn :: later) :
    turn.before = ⟨k.cache.or (firstCache earlier), k.service.or (firstService earlier),
        k.registry⟩ ∧
      (turn.before.call turn.call).Ends turn.asked (turn.outcome, turn.after) := by
  induction calls generalizing k w earlier with
  | nil => simp [turnsIn] at split
  | cons c calls ih =>
    have ends := Program.ends_events h (k.call c) w
    cases earlier with
    | nil =>
      obtain ⟨rfl, -⟩ := List.cons.inj split
      exact ⟨by simp [firstCache, firstService], ends⟩
    | cons first earlier =>
      obtain ⟨rfl, rest⟩ := List.cons.inj split
      obtain ⟨held, later⟩ := ih rest
      refine ⟨?_, later⟩
      rw [held, call_after ends, firstCache_cons, firstService_cons, Option.or_assoc,
        Option.or_assoc]

theorem lawful (held : turn.before = ⟨firstCache earlier, firstService earlier, registry⟩)
    (ends : (turn.before.call turn.call).Ends turn.asked (turn.outcome, turn.after)) :
    Lawful registry earlier turn where
  held := held
  setCache cache called := by
    rw [called, held] at ends
    refine ⟨setCache_ends ends, fun injected => ?_⟩
    rw [held]
    exact call_keeps ends (.inl injected) (.inr rfl)
  setService service called := by
    rw [called, held] at ends
    refine ⟨setService_ends ends, fun injected => ?_⟩
    rw [held]
    exact call_keeps ends (.inr rfl) (.inl injected)
  looked cache service := call_keeps ends (.inr cache) (.inr service)
  cache called := by
    rw [called, held] at ends
    exact cache_ends ends
  service called := by
    rw [called, held] at ends
    exact service_ends ends
  spared injected e member := by
    rw [held] at ends
    exact ends.asked (asks_call_of_cache injected _) member

/-- Failures that are taken for misses change no turn. -/
theorem softer_turnsIn (softens : Softens h h') (calls : List Call) (k : Collaborators) (w : W) :
    List.Forall₂ Turn.Softer (turnsIn h calls k w) (turnsIn h' calls k w) := by
  induction calls generalizing k w with
  | nil => exact .nil
  | cons c calls ih =>
    obtain ⟨run, asked⟩ := (forgives_call (k := k) (c := c)).run softens w
    rw [turnsIn, turnsIn, run]
    exact .cons ⟨rfl, rfl, asked, rfl, rfl⟩ (ih _ _)

/-- However the registry and the caches answer: what is injected first is found for good, nothing
else is remembered, and a failure of the registry goes unnoticed. -/
theorem turnsIn_lawful (h : Surroundings W) (calls : List Call)
    (registry : Option (Ref .registry)) (w : W) :
    let turns := turnsIn h calls (fresh registry) w
    (∀ earlier turn later, turns = earlier ++ turn :: later → Lawful registry earlier turn) ∧
      ∀ h', Softens h h' →
        List.Forall₂ Turn.Softer turns (turnsIn h' calls (fresh registry) w) := by
  refine ⟨fun earlier turn later split => ?_, fun h' softens => softer_turnsIn softens ..⟩
  obtain ⟨held, ends⟩ := turnsIn_split split
  exact lawful (by simpa [fresh] using held) ends

end

end Collaborators
end Lookup

namespace Trial

open Lookup Collaborators Rehearsal

/-- Every answer is counted. The registry finds a cache at every other answer, and fails at the
others, or finds nothing there when it is `quiet`. -/
def moody (quiet : Bool) : Surroundings Nat
  | .cacheComponent _, n =>
    (if n % 2 = 1 then .ok (some theCache)
      else if quiet then .ok none
      else .error (.ambiguous "cache"), n + 1)
  | .serviceComponent _, n =>
    (if quiet then .ok none else .error (.unavailable "gone"), n + 1)
  | request, n => ((setting.surroundings request (stage "orders")).1, n + 1)

theorem softens_moody : Softens (moody false) (moody true) := by
  intro question n
  cases question with
  | cacheComponent =>
    refine ⟨?_, rfl⟩
    by_cases odd : n % 2 = 1
    · simpa [moody, odd] using .same
    · simpa [moody, odd] using .cache
  | serviceComponent => exact ⟨.service, rfl⟩
  | _ => exact ⟨.same, rfl⟩

def consulting (quiet : Bool) : List Turn :=
  turnsIn (moody quiet)
    [.service, .service, .regionPath orders, .setCache ⟨3⟩, .setCache ⟨4⟩, .region orders, .service,
      .setService ⟨5⟩, .setService ⟨6⟩, .cache, .service]
    (fresh (some theRegistry)) 0

/-- A service is found only when the registry happens to find a cache, until one is injected, and
nobody can tell a failure from a miss. -/
theorem consulting_lawful :
    (∀ earlier turn later, consulting false = earlier ++ turn :: later →
      Lawful (some theRegistry) earlier turn) ∧
      List.Forall₂ Turn.Softer (consulting false) (consulting true) := by
  obtain ⟨lawful, softer⟩ := turnsIn_lawful (moody false) _ (some theRegistry) 0
  exact ⟨lawful, softer _ softens_moody⟩

example : (consulting false).map (·.asked.length) = [3, 2, 2, 0, 0, 1, 2, 0, 0, 0, 0] := by decide

end Trial
end GatedStartup
