import GatedStartup.Proofs.Consultation
import GatedStartup.Proofs.StageRun

/-! A cache held in memory with its own search service, seen from outside: which region path a
definition comes to there, and what ensuring and destroying its index changes. An index that has its
region is handed out in one form only, whether it is bound already, found or made. -/
namespace GatedStartup

open Engine Index Lookup

/-- The service that a question about an index is put to. -/
def Request.service? : Request → Option (Ref .service)
  | .findIndex service _ _ | .createIndex service _ _ _ | .destroyIndex service _ => some service
  | _ => none

theorem Request.service?_eq_none {request : Request} (other : request.topic ≠ .search) :
    request.service? = none := by
  cases request <;> first | rfl | contradiction

theorem Request.consults.service? {request : Request} (consults : request.consults) :
    request.service? = none := by
  cases request <;> first | rfl | contradiction

/-- The regions of a cache and the indexes of its service. -/
structure Engine.Memory where
  regions : Regions
  store : IndexStore

/-- `memory` tells what the cache and its service hold. Nobody writes to them but those who ask the
service. -/
structure KeepsMemory (h : Surroundings W) (cache : Ref .cache) (service : Ref .service)
    (memory : W → Memory) : Prop where
  serviceOf : ∀ w, (h (.serviceOf cache) w).1 = some service
  regionAt : ∀ path w, (h (.regionAt cache path) w).1 = (memory w).regions.find? path
  findIndex : ∀ name path w, (h (.findIndex service name path) w).1 =
      ((memory w).store.find name path).1 ∧
    memory (h (.findIndex service name path) w).2 =
      ⟨(memory w).regions, ((memory w).store.find name path).2⟩
  createIndex : ∀ name path fields w, (h (.createIndex service name path fields) w).1 =
      ((memory w).store.create (some (memory w).regions) name path fields).1 ∧
    memory (h (.createIndex service name path fields) w).2 =
      ⟨(memory w).regions,
        ((memory w).store.create (some (memory w).regions) name path fields).2⟩
  destroyIndex : ∀ index w, (h (.destroyIndex service index) w).1 =
      ((memory w).store.destroy index).1 ∧
    memory (h (.destroyIndex service index) w).2 =
      ⟨(memory w).regions, ((memory w).store.destroy index).2⟩
  others : ∀ request w, request.service? = none → memory (h request w).2 = memory w

def Rehearsal.Stage.memory (w : Rehearsal.Stage) : Memory := ⟨w.regions, w.store⟩

theorem Rehearsal.keepsMemory (s : Rehearsal.Setting) :
    KeepsMemory s.surroundings theCache theService Stage.memory where
  serviceOf _ := rfl
  regionAt _ _ := rfl
  findIndex _ _ _ := ⟨rfl, rfl⟩
  createIndex _ _ _ _ := ⟨rfl, rfl⟩
  destroyIndex _ _ := ⟨rfl, rfl⟩
  others request w other := by
    cases request with
    | register slot manager =>
      cases full : w.slot <;> simp [Setting.surroundings, full, Stage.memory]
    | findIndex | createIndex | destroyIndex => contradiction
    | _ => rfl

/-- The cache is the one that was injected, or else the one of the registry. A search service is
found through the cache and nowhere else. -/
structure Offers (h : Surroundings W) (k : Collaborators) (cache : Ref .cache) : Prop where
  cache : k.cache = some cache ∨ k.cache = none ∧ ∃ registry, k.registry = some registry ∧
    ∀ w, (h (.cacheComponent registry) w).1 = .ok (some cache)
  uninjected : k.service = none
  unregistered : ∀ registry, k.registry = some registry → ∀ w,
    hit (h (.serviceComponent registry) w).1 = none

namespace Index

/-- The index that a definition stands for under its name, at the canonical path if there is one. -/
def Definition.handle? (d : Definition) (name : String) : Option Handle :=
  (d.configuredPath?.bind canonical?).map (⟨name, ·, d.coverage⟩)

/-- The index that a definition stands for, if its region is there. -/
def Definition.provided? (d : Definition) (regions : Regions) (name : String) : Option Handle :=
  (d.handle? name).filter fun handle => regions.contains handle.regionPath

/-- The path that the index of a definition is looked for at: that of its region, and the configured
one without a region. -/
def Definition.soughtPath? (d : Definition) (regions : Regions) : Option String :=
  ((d.configuredPath?.bind regions.find?).map (·.fullPath)).or d.configuredPath?

variable {d : Definition} {regions : Regions} {name : String} {handle : Handle}

theorem Definition.provided?_eq_some : d.provided? regions name = some handle ↔
    d.handle? name = some handle ∧ regions.contains handle.regionPath = true := by
  rw [provided?, Option.filter_eq_some_iff]

/-- A region is there under its canonical path only, so whatever path is sought, an index can be
there just when it is the one provided. -/
theorem Definition.provided?_eq (canonical : regions.Canonical) :
    d.provided? regions name =
      ((d.soughtPath? regions).filter regions.contains).map (⟨name, ·, d.coverage⟩) := by
  rw [provided?, handle?, soughtPath?]
  cases configured : d.configuredPath? with
  | none => rfl
  | some path =>
    cases found : regions.find? path with
    | some region =>
      obtain ⟨q, spelled, listed⟩ := Option.bind_eq_some_iff.mp found
      have own : region.fullPath = q := (canonical q region listed).1
      simp [found, spelled, own, Option.filter, Table.contains, listed]
    | none =>
      have absent : regions.contains path = false :=
        Bool.eq_false_iff.mpr fun there => by simpa [found] using canonical.isSome_find? there
      cases spelled : canonical? path with
      | none => simp [found, spelled, absent, Option.filter]
      | some q =>
        have missing : regions.contains q = false := by
          simpa [Regions.find?, spelled, Table.contains] using found
        simp [found, spelled, absent, missing, Option.filter]

end Index

section

variable {h : Surroundings W} {cache : Ref .cache} {service : Ref .service} {memory : W → Memory}
  {k : Collaborators}

theorem KeepsMemory.silent {p : Work α} {w : W} (keeps : KeepsMemory h cache service memory)
    (quiet : ∀ e ∈ p.events h w, e.question.service? = none) :
    memory (p.run h w).2 = memory w := by
  induction p generalizing w with
  | done value => rfl
  | ask request next ih =>
    obtain ⟨first, later⟩ := List.forall_mem_cons.mp quiet
    exact (ih _ later).trans (keeps.others request w first)

theorem KeepsMemory.spared {p : Work α} {w : W} (keeps : KeepsMemory h cache service memory)
    (spares : Spares .search (p.events h w)) : memory (p.run h w).2 = memory w :=
  keeps.silent fun e member => Request.service?_eq_none (spares e member)

theorem KeepsMemory.consulted {p : Work α} (keeps : KeepsMemory h cache service memory)
    (asks : p.Asks Request.consults) (w : W) : memory (p.run h w).2 = memory w :=
  keeps.silent fun _ member => ((Program.ends_events h p w).asked asks member).service?

theorem Offers.resolveCache (offers : Offers h k cache) (w : W) :
    ∃ source, (k.resolveCache.run h w).1 = some ⟨cache, source⟩ := by
  rw [Collaborators.resolveCache, Collaborators.cacheChain, Chain.resolve_value]
  obtain injected | ⟨injected, registry, registered, answers⟩ := offers.cache
  · exact ⟨.explicit, by simp [injected]⟩
  · refine ⟨.registry, ?_⟩
    rw [injected, Option.elim_none, Chain.resolve_fromRegistry, Chain.resolve_finding]
    simp [Collaborators.consult, registered, ask, answers, hit]

theorem Offers.resolveService (offers : Offers h k cache)
    (keeps : KeepsMemory h cache service memory) (w : W) :
    ∃ source, (k.resolveService.run h w).1 = some ⟨service, source⟩ := by
  have missed (w : W) : ((k.consult fun registry =>
      ask (.serviceComponent registry)).run h w).1 = none := by
    rw [Collaborators.consult]
    cases registered : k.registry with
    | none => rfl
    | some registry => simpa [ask] using offers.unregistered registry registered w
  refine ⟨.cacheAccessor, ?_⟩
  rw [Collaborators.resolveService, Collaborators.serviceChain, offers.uninjected,
    Chain.resolve_value, Option.elim_none, Chain.resolve_fromRegistry, Chain.resolve_finding,
    Program.run_bind, missed, Option.elim_none, Chain.resolve_finding, Program.run_bind,
    Collaborators.serviceOfCache, Program.run_bind]
  obtain ⟨source, found⟩ := offers.resolveCache ((k.consult fun registry =>
    ask (.serviceComponent registry)).run h w).2
  rw [found]
  simp [ask, keeps.serviceOf]

theorem KeepsMemory.resolveRegion {d : Definition} {w : W}
    (keeps : KeepsMemory h cache service memory)
    (resolves : (k.resolveCache.run h w).1.map (·.value) = some cache)
    (unreferenced : d.region = none) : ((k.resolveRegion d).run h w).1.map (·.value) =
      d.configuredPath?.bind (memory w).regions.find? := by
  rw [Collaborators.resolveRegion, Collaborators.regionChain, unreferenced, Chain.resolve_value,
    Option.elim_none, Chain.resolve_finding, Program.run_bind, Collaborators.regionAtPath]
  cases d.configuredPath? with
  | none => rfl
  | some path =>
    obtain ⟨resolved, found, rfl⟩ := Option.map_eq_some_iff.mp resolves
    have same := keeps.consulted (Collaborators.asks_resolveCache (k := k)) w
    simp only [Program.run_bind, found, ask, Program.run_send, keeps.regionAt, same,
      Option.bind_some]
    cases (memory w).regions.find? path <;> rfl

/-- A definition without a region reference comes to the path of the region that its configured path
finds, and to the configured path without one. -/
theorem KeepsMemory.resolveRegionPath {d : Definition} {w : W}
    (keeps : KeepsMemory h cache service memory)
    (resolves : (k.resolveCache.run h w).1.map (·.value) = some cache)
    (unreferenced : d.region = none) : ((k.resolveRegionPath d).run h w).1 =
      (((d.configuredPath?.bind (memory w).regions.find?).map fun region =>
          (⟨region.fullPath, .regionFullPath⟩ : Resolved String)).or
        (d.configuredPath?.map (⟨·, .configuredPath⟩))).elim (.error .missingRegion) .ok := by
  rw [Collaborators.resolveRegionPath, Chain.resolveOr, Collaborators.regionPathChain,
    Chain.resolve_finding, Program.run_bind, Program.run_bind, Collaborators.fullPath,
    Program.run_bind, ← keeps.resolveRegion resolves unreferenced]
  cases ((k.resolveRegion d).run h w).1 with
  | some region => rfl
  | none => cases d.configuredPath? <;> rfl

/-- Where the index of a definition without a region reference is looked for. -/
theorem Offers.resolveRegionPath {d : Definition} (offers : Offers h k cache)
    (keeps : KeepsMemory h cache service memory) (unreferenced : d.region = none) (w : W) :
    ((k.resolveRegionPath d).run h w).1.map (·.value) =
      (d.soughtPath? (memory w).regions).elim (.error .missingRegion) .ok := by
  obtain ⟨source, found⟩ := offers.resolveCache w
  rw [keeps.resolveRegionPath (by rw [found]; rfl) unreferenced, Definition.soughtPath?]
  cases d.configuredPath? with
  | none => rfl
  | some path =>
    rw [Option.bind_some]
    cases (memory w).regions.find? path <;> rfl

variable {want : String → Option Handle} {regions : Regions} {name path : String} {x : Managed}
  {w : W}

/-- `want` tells of each name which index there may be, if any. The service has no other, and has
each under its own name and path. -/
structure Engine.Memory.Stocked (m : Memory) (regions : Regions) (want : String → Option Handle) :
    Prop where
  there : m.regions = regions
  stored : ∀ key handle, m.store.indexes.get? key = some handle →
    want key.name = some handle ∧ handle.regionPath = key.path

/-- The entry goes by its own name and a region path, and is bound to nothing but what is wanted. -/
structure Fits (want : String → Option Handle) (regions : Regions) (service : Ref .service)
    (e : Entry) : Prop where
  named : e.2.indexName = .ok e.1
  unreferenced : e.2.definition.region = none
  wanted : want e.1 = e.2.definition.provided? regions e.1
  bound : ∀ b, e.2.binding = some b → b.service = service ∧ want e.1 = some b.handle

namespace Engine.Memory.Stocked

variable {m m' : Memory}

theorem of_indexes (stocked : m.Stocked regions want) (same : m'.regions = m.regions)
    (indexes : m'.store.indexes = m.store.indexes) : m'.Stocked regions want :=
  ⟨same.trans stocked.there, by simpa only [indexes] using stocked.stored⟩

theorem insert {handle : Handle} (stocked : m.Stocked regions want)
    (same : m'.regions = m.regions)
    (inserted : m'.store.indexes = m.store.indexes.insert ⟨name, path⟩ handle)
    (wanted : want name = some handle) (located : handle.regionPath = path) :
    m'.Stocked regions want := by
  refine ⟨same.trans stocked.there, fun key other listed => ?_⟩
  rw [inserted, Table.get?_insert] at listed
  split at listed
  · next here =>
    cases listed
    exact here ▸ ⟨wanted, located⟩
  · exact stocked.stored key other listed

theorem destroy (stocked : m.Stocked regions want) (index : Handle) :
    Stocked ⟨m.regions, (m.store.destroy index).2⟩ regions want := by
  refine ⟨stocked.there, fun key handle listed => stocked.stored key handle ?_⟩
  rw [IndexStore.destroy] at listed
  split at listed
  · simp only [Table.get?_erase] at listed
    split at listed
    · contradiction
    · exact listed
  · exact listed

end Engine.Memory.Stocked

namespace KeepsMemory

/-- The one index that may be there is found, or made if its region is there. -/
theorem fetchOrCreate_run {fields : Fields} (path : String)
    (keeps : KeepsMemory h cache service memory) (stocked : (memory w).Stocked regions want)
    (nonempty : fields.toNames.isEmpty = false)
    (wanted : want name = if regions.contains path then some ⟨name, path, fields⟩ else none) :
    ∃ result w', (Managed.fetchOrCreate service name path fields).run h w = (result, w') ∧
      (∀ handle, result = .ok handle ↔ want name = some handle) ∧
      (memory w').Stocked regions want := by
  obtain rfl := stocked.there
  obtain ⟨found, after⟩ := keeps.findIndex name path w
  simp only [Managed.fetchOrCreate, Program.run_bind, ask, Program.run_send, found]
  generalize (h (.findIndex service name path) w).2 = w₁ at after
  cases listed : (memory w).store.indexes.get? ⟨name, path⟩ with
  | some handle =>
    simp only [IndexStore.find, listed, Program.run_pure]
    refine ⟨_, w₁, rfl, ?_, stocked.of_indexes (by rw [after]) (by rw [after]; rfl)⟩
    simp [(stocked.stored _ _ listed).1]
  | none =>
    simp only [IndexStore.find, listed, Program.run_bind, Program.run_send]
    obtain ⟨created, made⟩ := keeps.createIndex name path fields w₁
    have missing : (memory w₁).store.indexes.get? ⟨name, path⟩ = none := by rw [after]; exact listed
    rw [IndexStore.create_missing _ nonempty missing, after] at created made
    simp only [created]
    generalize (h (.createIndex service name path fields) w₁).2 = w₂ at made
    by_cases there : (memory w).regions.contains path = true
    · simp only [there, if_true] at wanted made ⊢
      obtain ⟨again, last⟩ := keeps.findIndex name path w₂
      simp only [Program.run_bind, Program.run_send, again]
      generalize (h (.findIndex service name path) w₂).2 = w₃ at last
      rw [made] at last
      simp only [made, IndexStore.find, Table.get?_insert, if_true, Program.run_pure]
      refine ⟨_, w₃, rfl, fun handle => ?_,
        stocked.insert (by rw [last]) (by rw [last]; rfl) wanted rfl⟩
      rw [wanted, Except.ok.injEq, Option.some.injEq]
    · simp only [there] at wanted made ⊢
      refine ⟨_, w₂, rfl, ?_, stocked.of_indexes (by simp [made]) (by simp [made, IndexStore.find])⟩
      simp [wanted]

theorem acquire_run (keeps : KeepsMemory h cache service memory) (offers : Offers h k cache)
    (canonical : regions.Canonical) (stocked : (memory w).Stocked regions want)
    (fits : Fits want regions service (name, x)) :
    ∃ result w', (x.acquire k).run h w = (result, w') ∧
      (∀ b, result = .ok b ↔ b.service = service ∧ want name = some b.handle) ∧
      (memory w').Stocked regions want := by
  have path := offers.resolveRegionPath keeps fits.unreferenced w
  have toPath := keeps.consulted (Collaborators.asks_resolveRegionPath (k := k)
    (d := x.definition)) w
  have wanted := fits.wanted.trans (Definition.provided?_eq canonical)
  have named : x.indexName = .ok name := fits.named
  simp only [Managed.acquire, named, Program.run_bind]
  rw [stocked.there] at path
  generalize (k.resolveRegionPath x.definition).run h w = resolved at path toPath
  obtain ⟨found, w₁⟩ := resolved
  have stocked₁ : (memory w₁).Stocked regions want := toPath ▸ stocked
  cases sought : x.definition.soughtPath? regions with
  | none =>
    obtain ⟨error, rfl⟩ : ∃ error, found = .error error := by
      cases found with
      | error error => exact ⟨error, rfl⟩
      | ok path => simp [Except.map, sought] at path
    refine ⟨_, w₁, rfl, ?_, stocked₁⟩
    simp [wanted, sought]
  | some p =>
    obtain ⟨source, rfl⟩ : ∃ source, found = .ok ⟨p, source⟩ := by
      cases found with
      | error error => simp [Except.map, sought] at path
      | ok found =>
        obtain rfl : found.value = p := by simpa [Except.map, sought] using path
        exact ⟨found.source, rfl⟩
    obtain ⟨source, served⟩ := offers.resolveService keeps w₁
    have toService := keeps.consulted (Collaborators.asks_resolveService (k := k)) w₁
    simp only [Program.run_bind, served]
    generalize (k.resolveService.run h w₁).2 = w₂ at toService
    have stocked₂ : (memory w₂).Stocked regions want := toService ▸ stocked₁
    obtain ⟨result, w₃, run, result_iff, stocked₃⟩ := keeps.fetchOrCreate_run p stocked₂
      (Rehearsal.coverage_nonempty x.definition) (by
        rw [wanted, sought]
        by_cases there : regions.contains p = true <;> simp [there, Option.filter])
    simp only [run]
    cases result with
    | error error => exact ⟨_, w₃, rfl, by simp [← result_iff], stocked₃⟩
    | ok handle =>
      refine ⟨_, w₃, rfl, fun b => ?_, stocked₃⟩
      obtain ⟨other, offered⟩ := b
      rw [← result_iff, Except.ok.injEq, Except.ok.injEq, Binding.mk.injEq, and_comm, eq_comm]

/-- A bound index answers what is wanted, and an unbound one is bound to it if it can be had. -/
theorem ensure_run (keeps : KeepsMemory h cache service memory) (offers : Offers h k cache)
    (canonical : regions.Canonical) (stocked : (memory w).Stocked regions want)
    (fits : Fits want regions service (name, x)) :
    ∃ result binding w', (x.ensure k).run h w = ((result, { x with binding := binding }), w') ∧
      (∀ handle, result = .ok handle ↔ want name = some handle) ∧
      Fits want regions service (name, { x with binding := binding }) ∧
      (memory w').Stocked regions want := by
  rw [Managed.ensure]
  cases bound : x.binding with
  | some b =>
    obtain ⟨-, wants⟩ := fits.bound b bound
    exact ⟨.ok b.handle, x.binding, w, rfl, by simp [wants], fits, stocked⟩
  | none =>
    obtain ⟨result, w', run, result_iff, stocked'⟩ :=
      keeps.acquire_run offers canonical stocked fits
    simp only [Program.run_bind, run]
    cases result with
    | error error =>
      refine ⟨.error error, x.binding, w', rfl, fun handle => ?_, fits, stocked'⟩
      simpa using result_iff ⟨handle, service⟩
    | ok b =>
      obtain ⟨own, wants⟩ := (result_iff b).mp rfl
      refine ⟨.ok b.handle, some b, w', rfl, by simp [wants], { fits with bound := ?_ }, stocked'⟩
      rintro _ ⟨⟩
      exact ⟨own, wants⟩

/-- Whatever is destroyed, nothing comes to be that is not wanted. -/
theorem destroy_run (keeps : KeepsMemory h cache service memory)
    (stocked : (memory w).Stocked regions want) (fits : Fits want regions service (name, x)) :
    ∃ result binding w', x.destroy.run h w = ((result, { x with binding := binding }), w') ∧
      Fits want regions service (name, { x with binding := binding }) ∧
      (memory w').Stocked regions want := by
  rw [Managed.destroy]
  split
  · cases bound : x.binding with
    | none => exact ⟨_, x.binding, w, rfl, fits, stocked⟩
    | some b =>
      obtain ⟨own, -⟩ := fits.bound b bound
      obtain ⟨-, after⟩ := own ▸ keeps.destroyIndex b.handle w
      have stocked' : (memory (h (.destroyIndex b.service b.handle) w).2).Stocked regions want :=
        after ▸ stocked.destroy b.handle
      simp only [Program.run_bind, ask, Program.run_send]
      cases (h (.destroyIndex b.service b.handle) w).1 with
      | error error => exact ⟨_, x.binding, _, rfl, fits, stocked'⟩
      | ok => exact ⟨_, none, _, rfl, { fits with bound := by simp }, stocked'⟩
  · exact ⟨_, x.binding, w, rfl, fits, stocked⟩

end KeepsMemory

/-- The entry without what it is bound to. -/
def Entry.released (e : Entry) : Entry := (e.1, { e.2 with binding := none })

/-- The entries differ in nothing but their bindings, and nothing is kept but what is wanted. -/
structure Tidied (want : String → Option Handle) (regions : Regions) (service : Ref .service)
    (entries entries' : List Entry) (m : Memory) : Prop where
  released : entries'.map Entry.released = entries.map Entry.released
  fit : ∀ e ∈ entries', Fits want regions service e
  stocked : m.Stocked regions want

namespace KeepsMemory

variable {entries : List Entry}

/-- Indexes are ensured to the last just when each of them can be had, and are those wanted. -/
theorem ensureEntries_run (keeps : KeepsMemory h cache service memory) (offers : Offers h k cache)
    (canonical : regions.Canonical) (stocked : (memory w).Stocked regions want)
    (fit : ∀ e ∈ entries, Fits want regions service e) :
    ∃ result entries' w',
      (Catalogue.ensureEntries k entries).run h w = ((result, entries'), w') ∧
      (∀ handles, result = .ok handles ↔ entries.map (want ·.1) = handles.map some) ∧
      Tidied want regions service entries entries' (memory w') := by
  induction entries generalizing w with
  | nil => exact ⟨.ok [], [], w, rfl, fun handles => by cases handles <;> simp, rfl, fit, stocked⟩
  | cons e rest ih =>
    obtain ⟨name, x⟩ := e
    obtain ⟨first, later⟩ := List.forall_mem_cons.mp fit
    obtain ⟨result, binding, w₁, run, result_iff, fits, stocked₁⟩ :=
      keeps.ensure_run offers canonical stocked first
    simp only [Catalogue.ensureEntries, Program.run_bind, run]
    cases result with
    | error failure =>
      refine ⟨_, _, w₁, rfl, fun handles => ?_, rfl, List.forall_mem_cons.mpr ⟨fits, later⟩,
        stocked₁⟩
      cases handles with
      | nil => simp
      | cons handle handles => simp [← result_iff]
    | ok handle =>
      obtain ⟨results, entries', w₂, runs, results_iff, tidied⟩ := ih stocked₁ later
      simp only [Program.run_bind, runs, Program.run_pure]
      refine ⟨_, _, w₂, rfl, fun handles => ?_, ?_,
        List.forall_mem_cons.mpr ⟨fits, tidied.fit⟩, tidied.stocked⟩
      · rw [List.map_cons, (result_iff handle).mp rfl]
        cases results <;> cases handles <;> simp [Except.map, ← results_iff]
      · simpa [Entry.released] using tidied.released

theorem destroyEntries_run (keeps : KeepsMemory h cache service memory)
    (stocked : (memory w).Stocked regions want)
    (fit : ∀ e ∈ entries, Fits want regions service e) :
    ∃ failed entries' w',
      (Catalogue.destroyEntries entries).run h w = ((failed, entries'), w') ∧
      Tidied want regions service entries entries' (memory w') := by
  induction entries generalizing w with
  | nil => exact ⟨none, [], w, rfl, rfl, fit, stocked⟩
  | cons e rest ih =>
    obtain ⟨name, x⟩ := e
    obtain ⟨first, later⟩ := List.forall_mem_cons.mp fit
    obtain ⟨failed, entries', w₁, runs, tidied⟩ := ih stocked later
    obtain ⟨result, binding, w₂, run, fits, stocked₂⟩ := keeps.destroy_run tidied.stocked first
    simp only [Catalogue.destroyEntries, Program.run_bind, runs, run]
    have tidied' {w' : W} (same : memory w' = memory w₂) : Tidied want regions service
        ((name, x) :: rest) ((name, { x with binding := binding }) :: entries') (memory w') :=
      ⟨by simpa [Entry.released] using tidied.released,
        List.forall_mem_cons.mpr ⟨fits, tidied.fit⟩, same ▸ stocked₂⟩
    cases result with
    | ok => exact ⟨_, _, w₂, rfl, tidied' rfl⟩
    | error failure => exact ⟨_, _, _, rfl, tidied' (keeps.others _ w₂ rfl)⟩

variable {c : Catalogue}

theorem ensureAll_run (keeps : KeepsMemory h cache service memory) (offers : Offers h k cache)
    (canonical : regions.Canonical) (stocked : (memory w).Stocked regions want)
    (fit : ∀ e ∈ c.entries, Fits want regions service e) :
    ∃ result c' w', (c.ensureAll k).run h w = ((result, c'), w') ∧
      (∀ handles, result = .ok handles ↔ c.entries.map (want ·.1) = handles.map some) ∧
      Tidied want regions service c.entries c'.entries (memory w') := by
  obtain ⟨result, entries, w', run, result_iff, tidied⟩ :=
    keeps.ensureEntries_run offers canonical stocked fit
  exact ⟨result, ⟨entries⟩, w', by rw [Catalogue.ensureAll, Program.run_bind, run]; rfl,
    result_iff, tidied⟩

theorem destroyAll_run (keeps : KeepsMemory h cache service memory)
    (stocked : (memory w).Stocked regions want)
    (fit : ∀ e ∈ c.entries, Fits want regions service e) :
    ∃ result c' w', c.destroyAll.run h w = ((result, c'), w') ∧
      Tidied want regions service c.entries c'.entries (memory w') := by
  obtain ⟨failed, entries, w', run, tidied⟩ := keeps.destroyEntries_run stocked fit
  rw [Catalogue.destroyAll, Program.run_bind, run]
  cases failed with
  | none => exact ⟨_, _, w', rfl, tidied⟩
  | some failure => exact ⟨_, _, w', rfl, tidied⟩

end KeepsMemory
end
end GatedStartup
