import GatedStartup.Index.Managed
import GatedStartup.Proofs.Transcript

/-! What ensuring and destroying one managed index can do. -/
namespace GatedStartup

open Lookup Index

/-- Questions on the way to an index of that name: for what it works with, for the index itself,
and for its creation. -/
def Request.seeks (name : String) : Request → Prop
  | .cacheComponent _ | .serviceComponent _ | .serviceOf _ | .regionAt _ _ => True
  | .findIndex _ n _ | .createIndex _ n _ _ => n = name
  | _ => False

/-- Questions for what an index works with. -/
def Request.consults : Request → Prop
  | .cacheComponent _ | .serviceComponent _ | .serviceOf _ | .regionAt _ _ => True
  | _ => False

theorem Request.consults.seeks {request : Request} {name : String} (consults : request.consults) :
    request.seeks name := by
  cases request <;> trivial

theorem Request.seeks.topic_eq {request : Request} {name : String} (seeks : request.seeks name) :
    request.topic = .search := by
  cases request <;> first | rfl | contradiction

def Failure.InActivation : Failure → Prop
  | .activation _ => True
  | _ => False

namespace Lookup

section

variable {Q : Type} {Answer : Q → Type} {allowed : Q → Prop} {strategy : Strategy Answer α}
  {rest : Chain Answer α}

theorem Chain.asks_nil : (resolve ([] : Chain Answer α)).Asks allowed := Program.asks_pure _

theorem Chain.asks_cons (first : strategy.attempt.Asks allowed)
    (later : rest.resolve.Asks allowed) : (resolve (strategy :: rest)).Asks allowed := by
  refine .bind first fun answer => ?_
  rcases answer with miss | found | value
  · exact later
  · exact later
  · exact Program.asks_pure _

end

namespace Collaborators

variable {k : Collaborators} {d : Definition}

theorem asks_fromRegistry {allowed : Request → Prop}
    {component : Ref .registry → Work (Except LookupError (Option α))}
    (permitted : ∀ registry, (component registry).Asks allowed) :
    (k.fromRegistry component).attempt.Asks allowed := by
  rw [fromRegistry]
  cases k.registry with
  | none => exact Program.asks_pure _
  | some registry =>
    refine .bind (permitted registry) fun answer => ?_
    cases answer <;> exact Program.asks_pure _

theorem asks_resolveCache : k.resolveCache.Asks Request.consults := by
  rw [resolveCache, cacheChain]
  apply Chain.asks_cons (Program.asks_pure _)
  exact Chain.asks_cons (asks_fromRegistry fun _ => asks_ask.mpr trivial) Chain.asks_nil

section

variable {allowed : Request → Prop} (cache : k.resolveCache.Asks allowed)
  (others : ∀ request : Request, request.consults →
    (∀ registry, request ≠ .cacheComponent registry) → allowed request)

include cache others

/-- Only for a cache is the registry asked for a cache. -/
theorem asks_resolveService_of : k.resolveService.Asks allowed := by
  rw [resolveService, serviceChain]
  apply Chain.asks_cons (Program.asks_pure _)
  apply Chain.asks_cons (asks_fromRegistry fun registry =>
    asks_ask.mpr (others (.serviceComponent registry) trivial fun _ => nofun))
  refine Chain.asks_cons (.bind ?_ fun _ => Program.asks_pure _) Chain.asks_nil
  refine .bind cache fun found => ?_
  cases found with
  | none => exact Program.asks_pure _
  | some cache => exact asks_ask.mpr (others _ trivial fun _ => nofun)

theorem asks_resolveRegion_of : (k.resolveRegion d).Asks allowed := by
  rw [resolveRegion, regionChain]
  apply Chain.asks_cons (Program.asks_pure _)
  refine Chain.asks_cons (.bind ?_ fun _ => Program.asks_pure _) Chain.asks_nil
  rw [regionAtPath]
  cases d.configuredPath? with
  | none => exact Program.asks_pure _
  | some path =>
    refine .bind cache fun found => ?_
    cases found with
    | none => exact Program.asks_pure _
    | some cache => exact asks_ask.mpr (others _ trivial fun _ => nofun)

theorem asks_resolveRegionPath_of : (k.resolveRegionPath d).Asks allowed := by
  refine .bind ?_ fun resolved => ?_
  · rw [regionPathChain]
    refine Chain.asks_cons (.bind ?_ fun _ => Program.asks_pure _)
      (Chain.asks_cons (Program.asks_pure _) Chain.asks_nil)
    refine .bind (asks_resolveRegion_of cache others) fun region => ?_
    cases region <;> exact Program.asks_pure _
  · cases resolved <;> exact Program.asks_pure _

end

theorem asks_resolveService : k.resolveService.Asks Request.consults :=
  asks_resolveService_of asks_resolveCache fun _ consults _ => consults

theorem asks_resolveRegionPath : (k.resolveRegionPath d).Asks Request.consults :=
  asks_resolveRegionPath_of asks_resolveCache fun _ consults _ => consults

end Collaborators
end Lookup

namespace Index.Managed

variable {k : Collaborators} {x x' : Managed} {t : Transcript} {name : String}

theorem indexName_eq_ok :
    x.indexName = .ok name ↔ x.definition.indexName? x.component = some name := by
  unfold indexName
  split <;> simp_all

theorem displayName_eq (named : x.indexName = .ok name) : x.displayName = name := by
  simp [displayName, indexName_eq_ok.mp named]

end Index.Managed

/-- All that fetching or creating an index can do. -/
inductive Fetched (service : Ref .service) (name path : String) (fields : Fields) :
    Transcript → Except SearchError Handle → Prop where
  | there : Fetched service name path fields
      [⟨.findIndex service name path, some handle⟩] (.ok handle)
  | refused : Fetched service name path fields
      [⟨.findIndex service name path, none⟩,
        ⟨.createIndex service name path fields, .error error⟩] (.error error)
  | created : Fetched service name path fields
      [⟨.findIndex service name path, none⟩, ⟨.createIndex service name path fields, .ok ()⟩,
        ⟨.findIndex service name path, some handle⟩] (.ok handle)
  | hidden : Fetched service name path fields
      [⟨.findIndex service name path, none⟩, ⟨.createIndex service name path fields, .ok ()⟩,
        ⟨.findIndex service name path, none⟩] (.error (.notVisible name path))

/-- What follows when an index is created: a refusal ends it, else the index is looked for again and
handed out if it is found. -/
inductive AfterCreation (service : Ref .service) (name path : String) :
    Except SearchError Unit → Transcript → Option Handle → Prop where
  | refused (error : SearchError) : AfterCreation service name path (.error error) [] none
  | accepted (found : Option Handle) :
      AfterCreation service name path (.ok ()) [⟨.findIndex service name path, found⟩] found

/-- All that looking for something to bind an index to can do. -/
inductive Acquired (k : Collaborators) (x : Managed) :
    Transcript → Except Failure Binding → Prop where
  | unnamed : x.indexName = .error error → Acquired k x [] (.error (.configuration error))
  | pathless : x.indexName = .ok name →
      (k.resolveRegionPath x.definition).Ends toPath (.error error) →
      Acquired k x toPath (.error (.configuration error))
  | unserved : x.indexName = .ok name →
      (k.resolveRegionPath x.definition).Ends toPath (.ok path) →
      k.resolveService.Ends toService none →
      Acquired k x (toPath ++ toService)
        (.error (.configuration (.unresolved "search service")))
  | unfetched : x.indexName = .ok name →
      (k.resolveRegionPath x.definition).Ends toPath (.ok path) →
      k.resolveService.Ends toService (some service) →
      Fetched service.value name path.value x.definition.coverage toIndex (.error error) →
      Acquired k x (toPath ++ (toService ++ toIndex)) (.error (.search error))
  | fetched : x.indexName = .ok name →
      (k.resolveRegionPath x.definition).Ends toPath (.ok path) →
      k.resolveService.Ends toService (some service) →
      Fetched service.value name path.value x.definition.coverage toIndex (.ok handle) →
      Acquired k x (toPath ++ (toService ++ toIndex)) (.ok ⟨handle, service.value⟩)

namespace Index.Managed

variable {k : Collaborators} {x : Managed} {t : Transcript} {name : String}

theorem fetchOrCreate_ends {service : Ref .service} {path : String} {fields : Fields}
    {result : Except SearchError Handle}
    (ends : (fetchOrCreate service name path fields).Ends t result) :
    Fetched service name path fields t result := by
  obtain ⟨found, rest, rfl, afterFind⟩ := ends_ask_bind.mp ends
  cases found with
  | some known =>
    obtain ⟨rfl, rfl⟩ := Program.ends_pure.mp afterFind
    exact .there
  | none =>
    obtain ⟨created, rest, rfl, afterCreate⟩ := ends_ask_bind.mp afterFind
    cases created with
    | error error =>
      obtain ⟨rfl, rfl⟩ := Program.ends_pure.mp afterCreate
      exact .refused
    | ok =>
      obtain ⟨found, rest, rfl, afterAll⟩ := ends_ask_bind.mp afterCreate
      cases found with
      | none =>
        obtain ⟨rfl, rfl⟩ := Program.ends_pure.mp afterAll
        exact .hidden
      | some known =>
        obtain ⟨rfl, rfl⟩ := Program.ends_pure.mp afterAll
        exact .created

theorem acquire_ends {result : Except Failure Binding} (ends : (acquire k x).Ends t result) :
    Acquired k x t result := by
  rw [acquire] at ends
  split at ends
  · next error unnamed =>
    obtain ⟨rfl, rfl⟩ := Program.ends_pure.mp ends
    exact .unnamed unnamed
  next name named =>
  obtain ⟨toPath, path, rest, rfl, located, afterPath⟩ := Program.ends_bind.mp ends
  cases path with
  | error error =>
    obtain ⟨rfl, rfl⟩ := Program.ends_pure.mp afterPath
    simpa using .pathless named located
  | ok path =>
    obtain ⟨toService, service, rest, rfl, served, afterService⟩ := Program.ends_bind.mp afterPath
    cases service with
    | none =>
      obtain ⟨rfl, rfl⟩ := Program.ends_pure.mp afterService
      simpa using .unserved named located served
    | some service =>
      obtain ⟨toIndex, handle, rest, rfl, fetching, done⟩ := Program.ends_bind.mp afterService
      have fetched := fetchOrCreate_ends fetching
      cases handle with
      | error error =>
        obtain ⟨rfl, rfl⟩ := Program.ends_pure.mp done
        simpa using .unfetched named located served fetched
      | ok handle =>
        obtain ⟨rfl, rfl⟩ := Program.ends_pure.mp done
        simpa using .fetched named located served fetched

end Index.Managed

namespace Fetched

variable {service : Ref .service} {name path : String} {fields : Fields} {t : Transcript}

theorem seeks {result : Except SearchError Handle}
    (fetched : Fetched service name path fields t result) {e : Event} (member : e ∈ t) :
    e.question.seeks name := by
  cases fetched <;> simp at member <;> obtain rfl | rfl | rfl := member <;> rfl

/-- An index is created where it was missed just before. -/
theorem of_creation {result : Except SearchError Handle} {s : Ref .service} {n p : String}
    {f : Fields} {answer : Except SearchError Unit} {front later : Transcript}
    (fetched : Fetched service name path fields t result)
    (whole : t = front ++ ⟨.createIndex s n p f, answer⟩ :: later) :
    (s = service ∧ n = name ∧ p = path ∧ f = fields) ∧ front = [⟨.findIndex s n p, none⟩] ∧
      AfterCreation s n p answer later result.toOption := by
  cases fetched with
  | there => rcases front with _ | ⟨_, _ | _⟩ <;> simp at whole
  | refused =>
    rcases front with _ | ⟨_, _ | ⟨_, _ | _⟩⟩ <;> simp at whole
    obtain ⟨rfl, ⟨⟨rfl, rfl, rfl, rfl⟩, rfl⟩, rfl⟩ := whole
    exact ⟨⟨rfl, rfl, rfl, rfl⟩, rfl, .refused _⟩
  | created | hidden =>
    rcases front with _ | ⟨_, _ | ⟨_, _ | ⟨_, _ | _⟩⟩⟩ <;> simp at whole
    obtain ⟨rfl, ⟨⟨rfl, rfl, rfl, rfl⟩, rfl⟩, rfl⟩ := whole
    exact ⟨⟨rfl, rfl, rfl, rfl⟩, rfl, .accepted _⟩

/-- A handle comes from the service that was asked for the index. -/
theorem last {handle : Handle} (fetched : Fetched service name path fields t (.ok handle)) :
    t.getLast? = some ⟨.findIndex service name path, some handle⟩ := by
  cases fetched <;> rfl

end Fetched

namespace Acquired

variable {k : Collaborators} {x : Managed} {t : Transcript} {name : String}

theorem seeks {result : Except Failure Binding} (acquired : Acquired k x t result)
    (named : x.indexName = .ok name) {e : Event} (member : e ∈ t) : e.question.seeks name := by
  cases acquired with
  | unnamed => contradiction
  | pathless _ located =>
    exact (located.asked Collaborators.asks_resolveRegionPath member).seeks
  | unserved _ located served =>
    rcases List.mem_append.mp member with early | late
    · exact (located.asked Collaborators.asks_resolveRegionPath early).seeks
    · exact (served.asked Collaborators.asks_resolveService late).seeks
  | unfetched known located served fetched | fetched known located served fetched =>
    obtain rfl := Except.ok.inj (named.symm.trans known)
    rw [List.mem_append, List.mem_append] at member
    rcases member with early | late | last
    · exact (located.asked Collaborators.asks_resolveRegionPath early).seeks
    · exact (served.asked Collaborators.asks_resolveService late).seeks
    · exact fetched.seeks last

/-- On the way to an index none is destroyed. -/
theorem destroyIndex_not_mem {result : Except Failure Binding} (acquired : Acquired k x t result)
    {service : Ref .service} {handle : Handle} {answer : Except SearchError Unit} :
    ⟨.destroyIndex service handle, answer⟩ ∉ t := by
  intro member
  cases named : x.indexName with
  | ok name => exact acquired.seeks named member
  | error error =>
    cases acquired with
    | unnamed => contradiction
    | _ known => simp [known] at named

/-- An index is created by its name and at the region path that was resolved, on the service that
was resolved. -/
theorem of_creation {result : Except Failure Binding} {service : Ref .service} {name path : String}
    {fields : Fields} {answer : Except SearchError Unit} {front later : Transcript}
    (acquired : Acquired k x t result)
    (whole : t = front ++ ⟨.createIndex service name path fields, answer⟩ :: later) :
    x.indexName = .ok name ∧ fields = x.definition.coverage ∧
      (∃ toPath toService,
        front = toPath ++ (toService ++ [⟨.findIndex service name path, none⟩]) ∧
        (∃ source, (k.resolveRegionPath x.definition).Ends toPath (.ok ⟨path, source⟩)) ∧
        ∃ source, k.resolveService.Ends toService (some ⟨service, source⟩)) ∧
      ∃ handed, AfterCreation service name path answer later handed ∧
        result.toOption = handed.map (⟨·, service⟩) := by
  have elsewhere {β : Type} {p : Work β} {t : Transcript} {b : β} (ends : p.Ends t b)
      (consults : p.Asks Request.consults) :
      (⟨.createIndex service name path fields, answer⟩ : Event) ∉ t := fun member =>
    (ends.asked consults member).elim
  cases acquired with
  | unnamed => simp at whole
  | pathless _ located =>
    exact absurd (by simp [whole]) (elsewhere located Collaborators.asks_resolveRegionPath)
  | unserved _ located served =>
    obtain ⟨_, -, inside⟩ := Lists.append_eq_append_cons_of_not_mem
      (elsewhere located Collaborators.asks_resolveRegionPath) whole
    exact absurd (by simp [inside]) (elsewhere served Collaborators.asks_resolveService)
  | unfetched named located served fetched | fetched named located served fetched =>
    obtain ⟨_, rfl, past⟩ := Lists.append_eq_append_cons_of_not_mem
      (elsewhere located Collaborators.asks_resolveRegionPath) whole
    obtain ⟨_, rfl, inside⟩ := Lists.append_eq_append_cons_of_not_mem
      (elsewhere served Collaborators.asks_resolveService) past
    obtain ⟨⟨rfl, rfl, rfl, rfl⟩, rfl, after⟩ := fetched.of_creation inside
    exact ⟨named, rfl, ⟨_, _, rfl, ⟨_, located⟩, _, served⟩, _, after, rfl⟩

theorem not_inActivation {failure : Failure} (acquired : Acquired k x t (.error failure)) :
    ¬ failure.InActivation := by
  cases acquired <;> exact id

theorem last {b : Binding} (acquired : Acquired k x t (.ok b)) :
    ∃ name path, x.indexName = .ok name ∧
      t.getLast? = some ⟨.findIndex b.service name path, some b.handle⟩ := by
  cases acquired with
  | @fetched name _ path _ _ _ _ named _ _ fetched =>
    refine ⟨name, path.value, named, ?_⟩
    rw [List.getLast?_append, List.getLast?_append, fetched.last]
    rfl

end Acquired

/-- All that ensuring an index can do. -/
inductive Ensuring (k : Collaborators) (x : Managed) :
    Transcript → Except Failure Handle → Managed → Prop where
  | known : x.binding = some b → Ensuring k x [] (.ok b.handle) x
  | failed {failure : Failure} : x.binding = none → Acquired k x t (.error failure) →
      Ensuring k x t (.error failure) x
  | bound : x.binding = none → Acquired k x t (.ok b) →
      Ensuring k x t (.ok b.handle) { x with binding := some b }

theorem Ensuring.destroyIndex_not_mem {k : Collaborators} {x y : Managed} {t : Transcript}
    {result : Except Failure Handle} (ensuring : Ensuring k x t result y) {service : Ref .service}
    {handle : Handle} {answer : Except SearchError Unit} :
    ⟨.destroyIndex service handle, answer⟩ ∉ t := by
  cases ensuring with
  | known => exact List.not_mem_nil
  | failed _ acquired | bound _ acquired => exact acquired.destroyIndex_not_mem

/-- Ensuring an index of that name, by what is asked on the way. -/
inductive Ensured (name : String) (x : Managed) :
    Transcript → Except Failure Handle → Managed → Prop where
  | known : x.binding = some b → Ensured name x [] (.ok b.handle) x
  | failed {failure : Failure} : x.binding = none → (∀ e ∈ t, e.question.seeks name) →
      ¬ failure.InActivation →
      Ensured name x t (.error failure) x
  | bound : x.binding = none → (∀ e ∈ t, e.question.seeks name) →
      ⟨.findIndex b.service name path, some b.handle⟩ ∈ t →
      Ensured name x t (.ok b.handle) { x with binding := some b }

/-- All that destroying an index can do. -/
inductive Destroyed (x : Managed) : Transcript → Except Failure Unit → Managed → Prop where
  | spared : (x.definition.destroyOnShutdown = true → x.binding = none) → Destroyed x [] (.ok ()) x
  | refused : x.definition.destroyOnShutdown = true → x.binding = some b →
      Destroyed x [⟨.destroyIndex b.service b.handle, .error error⟩] (.error (.search error)) x
  | gone : x.definition.destroyOnShutdown = true → x.binding = some b →
      Destroyed x [⟨.destroyIndex b.service b.handle, .ok ()⟩] (.ok ()) { x with binding := none }

namespace Index.Managed

variable {k : Collaborators} {x x' : Managed} {t : Transcript} {name : String}

theorem ensure_ensuring {result : Except Failure Handle}
    (ends : (x.ensure k).Ends t (result, x')) : Ensuring k x t result x' := by
  rw [ensure] at ends
  cases binding : x.binding with
  | some b =>
    obtain ⟨rfl, rfl, rfl⟩ := by simpa [binding] using ends
    exact .known binding
  | none =>
    simp only [binding] at ends
    obtain ⟨front, acquired, rest, rfl, sought, done⟩ := Program.ends_bind.mp ends
    have outcome := acquire_ends sought
    cases acquired with
    | error failure =>
      obtain ⟨rfl, rfl, rfl⟩ := by simpa using done
      simpa using .failed binding outcome
    | ok b =>
      obtain ⟨rfl, rfl, rfl⟩ := by simpa using done
      simpa using .bound binding outcome

theorem ensure_ends {result : Except Failure Handle} (named : x.indexName = .ok name)
    (ends : (x.ensure k).Ends t (result, x')) : Ensured name x t result x' := by
  cases ensure_ensuring ends with
  | known binding => exact .known binding
  | failed unbound acquired =>
    exact .failed unbound (fun e => acquired.seeks named) acquired.not_inActivation
  | bound unbound acquired =>
    obtain ⟨_, path, known, last⟩ := acquired.last
    obtain rfl := Except.ok.inj (named.symm.trans known)
    exact .bound unbound (fun e => acquired.seeks named) (List.mem_of_getLast? last)

theorem destroy_ends {result : Except Failure Unit} (ends : x.destroy.Ends t (result, x')) :
    Destroyed x t result x' := by
  rw [destroy] at ends
  by_cases flagged : x.definition.destroyOnShutdown = true
  · cases binding : x.binding with
    | none =>
      obtain ⟨rfl, rfl, rfl⟩ := by simpa [flagged, binding] using ends
      exact .spared fun _ => binding
    | some b =>
      simp only [flagged, binding, if_true] at ends
      obtain ⟨answer, rest, rfl, done⟩ := ends_ask_bind.mp ends
      cases answer with
      | error error =>
        obtain ⟨rfl, rfl, rfl⟩ := by simpa using done
        exact .refused flagged binding
      | ok =>
        obtain ⟨rfl, rfl, rfl⟩ := by simpa using done
        exact .gone flagged binding
  · obtain ⟨rfl, rfl, rfl⟩ := by simpa [flagged] using ends
    exact .spared fun asked => absurd asked flagged

end Index.Managed
end GatedStartup
