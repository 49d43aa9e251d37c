import GatedStartup.Proofs.Declared

/-! What the parts of a startup come to on the stage of a dry run: looking for collaborators,
ensuring the indexes, starting the realms, activating security, and the whole of a first run. -/
namespace GatedStartup

open Engine Index Lookup Text Declaration

/-- An index that is not there is made if its region is. -/
theorem Engine.IndexStore.create_missing {store : IndexStore} {name path : String}
    {fields : Fields} (regions : Regions) (nonempty : fields.toNames.isEmpty = false)
    (absent : store.indexes.get? ⟨name, path⟩ = none) :
    store.create (some regions) name path fields =
      if regions.contains path then
        (.ok (), { store with
          creates := store.creates + 1
          indexes := store.indexes.insert ⟨name, path⟩ ⟨name, path, fields⟩ })
      else (.error (.createFailed name ("region " ++ path ++ " does not exist")),
        { store with creates := store.creates + 1 }) := by
  have unknown : store.indexes.contains ⟨name, path⟩ = false := by simp [Table.contains, absent]
  by_cases there : regions.contains path = true <;>
  simp [create, refusal?, nonempty, there, unknown]

namespace Rehearsal

section

variable {s : Setting} {w : Stage}

@[simp] theorem run_probe {probe : Ref .probe} {capability : String} :
    Program.run (α := Bool) s.surroundings (ask (.probe probe capability)) w =
      (s.probe.isPresent capability, w) := rfl

@[simp] theorem run_startRealm {realm : Realm} :
    Program.run (α := Except AuthError Unit) s.surroundings (ask (.startRealm realm)) w =
      (s.startRealm realm, w) := rfl

@[simp] theorem run_register {slot : Ref .slot} {manager : Manager} :
    Program.run (α := Bool) s.surroundings (ask (.register slot manager)) w =
      if w.slot.isSome then (false, w) else (true, { w with slot := some manager }) := rfl

@[simp] theorem run_registered {slot : Ref .slot} :
    Program.run (α := Option Manager) s.surroundings (ask (.registered slot)) w =
      (w.slot, w) := rfl

@[simp] theorem run_withdraw {slot : Ref .slot} :
    Program.run (α := Option Manager) s.surroundings (ask (.withdraw slot)) w =
      (w.slot, { w with slot := none }) := rfl

@[simp] theorem run_warn {warning : Warning} :
    Program.run (α := Unit) s.surroundings (ask (.warn warning)) w =
      ((), { w with warnings := w.warnings ++ [warning] }) := rfl

@[simp] theorem run_enforce {switch : Ref .switch} :
    Program.run (α := Bool) s.surroundings (ask (.enforce switch)) w =
      (true, { w with enforced := true }) := rfl

@[simp] theorem run_cacheComponent {registry : Ref .registry} :
    Program.run (α := Except LookupError (Option (Ref .cache))) s.surroundings
      (ask (.cacheComponent registry)) w = (s.cacheComponent, w) := rfl

@[simp] theorem run_serviceComponent {registry : Ref .registry} :
    Program.run (α := Except LookupError (Option (Ref .service))) s.surroundings
      (ask (.serviceComponent registry)) w = (s.serviceComponent, w) := rfl

@[simp] theorem run_serviceOf {cache : Ref .cache} :
    Program.run (α := Option (Ref .service)) s.surroundings (ask (.serviceOf cache)) w =
      (some theService, w) := rfl

@[simp] theorem run_regionAt {cache : Ref .cache} {path : String} :
    Program.run (α := Option Region) s.surroundings (ask (.regionAt cache path)) w =
      (w.regions.find? path, w) := rfl

@[simp] theorem run_findIndex {service : Ref .service} {name path : String} :
    Program.run (α := Option Handle) s.surroundings (ask (.findIndex service name path)) w =
      (w.store.indexes.get? ⟨name, path⟩, { w with store := (w.store.find name path).2 }) := rfl

@[simp] theorem run_createIndex {service : Ref .service} {name path : String} {fields : Fields} :
    Program.run (α := Except SearchError Unit) s.surroundings
        (ask (.createIndex service name path fields)) w =
      ((w.store.create (some w.regions) name path fields).1,
        { w with store := (w.store.create (some w.regions) name path fields).2 }) := rfl

@[simp] theorem run_destroyIndex {service : Ref .service} {index : Handle} :
    Program.run (α := Except SearchError Unit) s.surroundings
        (ask (.destroyIndex service index)) w =
      ((w.store.destroy index).1, { w with store := (w.store.destroy index).2 }) := rfl

end

/-- The cache is found through the registry, and a search service is not. -/
structure CacheOnly (s : Setting) : Prop where
  cache : s.cacheComponent = .ok (some theCache)
  service : s.serviceComponent = .ok none

theorem cacheOnly_settingOf (c : Configuration) (environment : String → Option String)
    (programs : String → Bool) : CacheOnly (settingOf c environment programs) := by
  constructor <;> rfl

def registryOnly : Collaborators := ⟨none, none, some theRegistry⟩

@[simp] theorem registryOnly_cache : registryOnly.cache = none := rfl
@[simp] theorem registryOnly_service : registryOnly.service = none := rfl
@[simp] theorem registryOnly_registry : registryOnly.registry = some theRegistry := rfl

variable {s : Setting} {w : Stage} {d : Definition}

theorem resolveCache_run (only : CacheOnly s) :
    registryOnly.resolveCache.run s.surroundings w = (some ⟨theCache, .registry⟩, w) := by
  simp [Collaborators.resolveCache, Collaborators.cacheChain, Chain.resolve, Strategy.value,
    Collaborators.fromRegistry, only.cache]

theorem resolveService_run (only : CacheOnly s) :
    registryOnly.resolveService.run s.surroundings w = (some ⟨theService, .cacheAccessor⟩, w) := by
  simp [Collaborators.resolveService, Collaborators.serviceChain, Chain.resolve, Strategy.value,
    Strategy.finding, Collaborators.serviceOfCache, Collaborators.fromRegistry, only.service,
    resolveCache_run only]

theorem resolveRegion_run (only : CacheOnly s) :
    ((registryOnly.resolveRegion d).run s.surroundings w).1.map (·.value) =
        d.region.or (d.configuredPath?.bind w.regions.find?) ∧
      ((registryOnly.resolveRegion d).run s.surroundings w).2 = w := by
  cases reference : d.region with
  | some region =>
    simp [Collaborators.resolveRegion, Collaborators.regionChain, Chain.resolve, Strategy.value,
      reference]
  | none =>
    cases configured : d.configuredPath? with
    | none =>
      simp [Collaborators.resolveRegion, Collaborators.regionChain, Chain.resolve, Strategy.value,
        Strategy.finding, Collaborators.regionAtPath, reference, configured]
    | some path =>
      cases found : w.regions.find? path <;>
      simp [Collaborators.resolveRegion, Collaborators.regionChain, Chain.resolve, Strategy.value,
        Strategy.finding, Collaborators.regionAtPath, reference, configured, resolveCache_run only,
        found]

theorem resolveRegionPath_run (only : CacheOnly s) :
    ((registryOnly.resolveRegionPath d).run s.surroundings w).1.map (·.value) =
        (((d.region.or (d.configuredPath?.bind w.regions.find?)).map (·.fullPath)).or
          d.configuredPath?).elim (.error .missingRegion) .ok ∧
      ((registryOnly.resolveRegionPath d).run s.surroundings w).2 = w := by
  obtain ⟨value, same⟩ := resolveRegion_run (w := w) (d := d) only
  simp only [Collaborators.resolveRegionPath, Chain.resolveOr, Collaborators.regionPathChain,
    Chain.resolve, Strategy.finding, Strategy.value, Collaborators.fullPath, Program.run_bind]
  generalize (registryOnly.resolveRegion d).run s.surroundings w = found at value same ⊢
  obtain ⟨region, w'⟩ := found
  subst same
  cases region with
  | some region =>
    rw [← value]
    simp [Except.map]
  | none =>
    rw [← value]
    cases d.configuredPath? <;> simp [Except.map]

/-- The path of the region that an index is to cover. -/
def soughtPath? (d : Definition) : Option String :=
  match d.region with
  | some region => some region.fullPath
  | none => d.configuredPath?.map fun path => (canonical? path).getD path

/-- The region of a configured path is there if the path is canonical at all. -/
def Covers (regions : Regions) (d : Definition) : Prop :=
  ∀ path canonical, d.configuredPath? = some path → canonical? path = some canonical →
    regions.contains canonical = true

theorem foundPath_eq {regions : Regions} (canonical : regions.Canonical)
    (covers : Covers regions d) :
    ((d.region.or (d.configuredPath?.bind regions.find?)).map (·.fullPath)).or d.configuredPath? =
      soughtPath? d := by
  unfold soughtPath?
  cases reference : d.region with
  | some region => rfl
  | none =>
    cases configured : d.configuredPath? with
    | none => rfl
    | some path =>
      cases spelled : canonical? path with
      | none => simp [Regions.find?, spelled]
      | some q =>
        obtain ⟨region, there⟩ := Option.isSome_iff_exists.mp (covers path q configured spelled)
        simp [Regions.find?, spelled, there, (canonical q region there).1]

theorem coverage_nonempty (d : Definition) : d.coverage.toNames.isEmpty = false := by
  unfold Definition.coverage
  split
  · split
    · rfl
    · next fields => simpa [Fields.toNames] using fields
  · next analyzers => simpa [Fields.toNames, Table.keys, Table.isEmpty] using analyzers

/-- Of that name the store has the index of the handle and no other. -/
def Holds (store : IndexStore) (name : String) (held : Option Handle) : Prop :=
  ∀ path, store.indexes.get? ⟨name, path⟩ = held.filter (·.regionPath == path)

/-- The stores differ in indexes of these names only. -/
def SameBut (names : List String) (store store' : IndexStore) : Prop :=
  ∀ name ∉ names, ∀ path, store'.indexes.get? ⟨name, path⟩ = store.indexes.get? ⟨name, path⟩

theorem SameBut.refl (names : List String) (store : IndexStore) : SameBut names store store :=
  fun _ _ _ => rfl

theorem SameBut.trans {names names' : List String} {store store' store'' : IndexStore}
    (first : SameBut names store store') (later : SameBut names' store' store'') :
    SameBut (names ++ names') store store'' := by
  intro name absent path
  obtain ⟨out, out'⟩ := not_or.mp fun inside => absent (List.mem_append.mpr inside)
  exact (later name out' path).trans (first name out path)

theorem SameBut.holds {names : List String} {store store' : IndexStore} {name : String}
    {held : Option Handle} (same : SameBut names store store') (absent : name ∉ names)
    (holds : Holds store name held) : Holds store' name held := fun path =>
  (same name absent path).trans (holds path)

theorem create_run (regions : Regions) {store : IndexStore} {name : String} (path : String)
    (d : Definition) (absent : Holds store name none) :
    (store.create (some regions) name path d.coverage).1 =
        (if regions.contains path = true then .ok ()
          else .error (.createFailed name ("region " ++ path ++ " does not exist"))) ∧
      (store.create (some regions) name path d.coverage).2.indexes =
        if regions.contains path = true
        then store.indexes.insert ⟨name, path⟩ ⟨name, path, d.coverage⟩ else store.indexes := by
  have missing : store.indexes.get? ⟨name, path⟩ = none := by simp [absent path]
  rw [IndexStore.create_missing regions (coverage_nonempty d) missing]
  split <;> exact ⟨rfl, rfl⟩

theorem fetchOrCreate_run (s : Setting) {name : String} (path : String) (d : Definition)
    (absent : Holds w.store name none) :
    ∃ store, (Managed.fetchOrCreate theService name path d.coverage).run s.surroundings w =
        (if w.regions.contains path = true then .ok ⟨name, path, d.coverage⟩
          else .error (.createFailed name ("region " ++ path ++ " does not exist")),
          { w with store := store }) ∧
      store.indexes = if w.regions.contains path = true
        then w.store.indexes.insert ⟨name, path⟩ ⟨name, path, d.coverage⟩
        else w.store.indexes := by
  have missing : w.store.indexes.get? ⟨name, path⟩ = none := by simp [absent path]
  have still : Holds (w.store.find name path).2 name none := absent
  obtain ⟨created, indexes⟩ := create_run w.regions path d still
  simp only [Managed.fetchOrCreate, Program.run_bind, run_findIndex, missing, run_createIndex,
    created]
  by_cases there : w.regions.contains path = true
  · simp only [there, if_true] at indexes ⊢
    simp only [Program.run_bind, run_findIndex, indexes, Table.get?_insert, if_true,
      Program.run_pure]
    exact ⟨_, rfl, indexes⟩
  · simp only [there] at indexes ⊢
    exact ⟨_, rfl, indexes⟩

theorem holds_insert {store store' : IndexStore} {name path : String} {handle : Handle}
    (absent : Holds store name none) (located : handle.regionPath = path)
    (inserted : store'.indexes = store.indexes.insert ⟨name, path⟩ handle) :
    Holds store' name (some handle) ∧ SameBut [name] store store' := by
  subst located
  refine ⟨fun path => ?_, fun other different path => ?_⟩
  · rw [inserted, Table.get?_insert]
    by_cases here : path = handle.regionPath
    · simp [here, Option.filter]
    · simp [here, Ne.symm here, absent path, Option.filter]
  · rw [inserted, Table.get?_insert, if_neg (by simpa using fun same _ => different (by simp [same]))]

theorem holds_erase {store store' : IndexStore} {name : String} {handle : Handle}
    (holds : Holds store name (some handle))
    (erased : store'.indexes = store.indexes.erase ⟨name, handle.regionPath⟩) :
    Holds store' name none ∧ SameBut [name] store store' := by
  refine ⟨fun path => ?_, fun other different path => ?_⟩
  · rw [erased, Table.get?_erase]
    by_cases here : path = handle.regionPath
    · simp [here]
    · simp [here, Ne.symm here, holds path, Option.filter]
  · have apart : other ≠ name := by simpa using different
    simp [erased, apart]

/-- What ensuring a declared index comes to. -/
def ensured (regions : Regions) (name : String) (d : Definition) : Except Failure Handle :=
  match soughtPath? d with
  | none => .error (.configuration .missingRegion)
  | some path =>
    if regions.contains path = true then .ok ⟨name, path, d.coverage⟩
    else .error (.search (.createFailed name ("region " ++ path ++ " does not exist")))

theorem name_ensured {regions : Regions} {name : String} {handle : Handle}
    (found : ensured regions name d = .ok handle) : handle.name = name := by
  unfold ensured at found
  split at found
  · contradiction
  · split at found
    · cases found
      rfl
    · contradiction

@[simp] theorem entry_definition (e : String × Declaration) :
    (entry e).2.definition = e.2.definition := rfl

@[simp] theorem entry_binding (e : String × Declaration) : (entry e).2.binding = none := rfl

/-- A declared index, bound to what is held of it. -/
def placed (held : Option Handle) (e : String × Declaration) : String × Managed :=
  (e.1, { (entry e).2 with binding := held.map (⟨·, theService⟩) })

@[simp] theorem placed_name (held : Option Handle) (e : String × Declaration) :
    (placed held e).1 = e.1 := rfl

@[simp] theorem placed_definition (held : Option Handle) (e : String × Declaration) :
    (placed held e).2.definition = e.2.definition := rfl

@[simp] theorem placed_bound (held : Option Handle) (e : String × Declaration) :
    (placed held e).2.bound = held := by
  simp [placed, Managed.bound, Function.comp_def]

/-- An unbound index is found missing and created, if its region is there. -/
theorem ensure_run (only : CacheOnly s) (canonical : w.regions.Canonical)
    {e : String × Declaration} (resolved : e.2.name? = some e.1)
    (covers : Covers w.regions e.2.definition) (absent : Holds w.store e.1 none) :
    let outcome := ensured w.regions e.1 e.2.definition
    ∃ store, ((entry e).2.ensure registryOnly).run s.surroundings w =
        ((outcome, (placed outcome.toOption e).2), { w with store := store }) ∧
      Holds store e.1 outcome.toOption ∧ SameBut [e.1] w.store store := by
  obtain ⟨value, same⟩ := resolveRegionPath_run (w := w) (d := e.2.definition) only
  rw [foundPath_eq canonical covers] at value
  have indexName : (entry e).2.indexName = .ok e.1 := by
    rw [entry, indexName_unbound, resolved, Option.elim_some]
  simp only [Managed.ensure, Managed.acquire, indexName, entry_binding, entry_definition,
    Program.run_bind]
  generalize (registryOnly.resolveRegionPath e.2.definition).run s.surroundings w = found
    at value same ⊢
  obtain ⟨path, w'⟩ := found
  subst same
  unfold ensured
  cases sought : soughtPath? e.2.definition with
  | none =>
    rw [sought] at value
    cases path with
    | ok path => simp [Except.map] at value
    | error error =>
      obtain rfl : error = .missingRegion := by simpa [Except.map] using value
      exact ⟨w'.store, rfl, absent, .refl _ _⟩
  | some p =>
    rw [sought] at value
    cases path with
    | error error => simp [Except.map] at value
    | ok path =>
      obtain rfl : path.value = p := by simpa [Except.map] using value
      obtain ⟨store, fetched, indexes⟩ :=
        fetchOrCreate_run s path.value e.2.definition absent
      simp only [Program.run_bind, resolveService_run only, fetched]
      by_cases there : w'.regions.contains path.value = true
      · simp only [there, if_true] at indexes ⊢
        exact ⟨store, rfl, holds_insert absent rfl indexes⟩
      · simp only [there] at indexes ⊢
        have same : store.indexes = w'.store.indexes := indexes
        refine ⟨store, rfl, fun p => ?_, fun other _ p => ?_⟩
        · rw [same]
          exact absent p
        · rw [same]

/-- A bound index stays as it is, and one that is not bound is bound to what it is found to be. -/
theorem ensure_placed_run (only : CacheOnly s) (canonical : w.regions.Canonical)
    {e : String × Declaration} (resolved : e.2.name? = some e.1)
    (covers : Covers w.regions e.2.definition) {handle : Handle}
    (found : ensured w.regions e.1 e.2.definition = .ok handle) (kept : Bool)
    (holds : Holds w.store e.1 (if kept then some handle else none)) :
    ∃ store, ((placed (if kept then some handle else none) e).2.ensure registryOnly).run
        s.surroundings w = ((.ok handle, (placed (some handle) e).2), { w with store := store }) ∧
      Holds store e.1 (some handle) ∧ SameBut [e.1] w.store store := by
  cases kept with
  | true => exact ⟨w.store, rfl, holds, .refl _ _⟩
  | false =>
    obtain ⟨store, run, after⟩ := ensure_run only canonical resolved covers holds
    rw [found] at run after
    exact ⟨store, run, after⟩

def always (_ : Declaration) : Bool := true

def never (_ : Declaration) : Bool := false

/-- The index is to outlast the process. -/
def lasting (d : Declaration) : Bool := !d.definition.destroyOnShutdown

theorem destroy_there {store : IndexStore} {handle : Handle}
    (there : store.indexes.get? ⟨handle.name, handle.regionPath⟩ = some handle) :
    store.destroy handle = (.ok (), { store with
      destroys := store.destroys + 1
      indexes := store.indexes.erase ⟨handle.name, handle.regionPath⟩ }) := by
  simp [IndexStore.destroy, Table.contains, there]

/-- Of a bound index the service is asked to destroy what it has, so it does not refuse. -/
theorem destroy_placed_run (s : Setting) {e : String × Declaration} {handle : Handle}
    (named : handle.name = e.1) (kept : Bool)
    (holds : Holds w.store e.1 (if kept then some handle else none)) :
    let held := if kept && lasting e.2 then some handle else none
    ∃ store, (placed (if kept then some handle else none) e).2.destroy.run s.surroundings w =
        ((.ok (), (placed held e).2), { w with store := store }) ∧
      Holds store e.1 held ∧ SameBut [e.1] w.store store := by
  cases flagged : e.2.definition.destroyOnShutdown with
  | false =>
    refine ⟨w.store, ?_, ?_, .refl _ _⟩
    · simp [Managed.destroy, lasting, flagged]
    · simpa [lasting, flagged] using holds
  | true =>
    cases kept with
    | false =>
      refine ⟨w.store, ?_, holds, .refl _ _⟩
      simp [Managed.destroy, placed]
    | true =>
      have there : w.store.indexes.get? ⟨handle.name, handle.regionPath⟩ = some handle := by
        simp [named, holds handle.regionPath, Option.filter]
      have gone : lasting e.2 = false := by simp [lasting, flagged]
      have destroyed := destroy_there there
      refine ⟨(w.store.destroy handle).2, ?_, ?_⟩
      · simp [Managed.destroy, flagged, placed, destroyed, gone]
      · simpa [gone] using holds_erase holds (by simp [destroyed, named])

theorem destroyEntries_unbound (declared : List (String × Declaration)) :
    Catalogue.destroyEntries (declared.map entry) = pure (none, declared.map entry) := by
  induction declared with
  | nil => rfl
  | cons e rest ih =>
    have spared : (entry e).2.destroy = pure (.ok (), (entry e).2) := by
      simp only [Managed.destroy, entry_binding, ite_self]
    have shape : entry e = (e.1, (entry e).2) := rfl
    rw [List.map_cons, shape]
    simp only [Catalogue.destroyEntries, ih, spared, pure_bind]

/-- Each index goes by its own resolved name, and the regions to be found for it are there. -/
structure Staged (regions : Regions) (declared : List (String × Declaration)) : Prop where
  canonical : regions.Canonical
  resolved : ∀ e ∈ declared, e.2.name? = some e.1
  distinct : (declared.map (·.1)).Nodup
  covers : ∀ e ∈ declared, Covers regions e.2.definition

theorem Staged.tail {regions : Regions} {e : String × Declaration}
    {rest : List (String × Declaration)} (staged : Staged regions (e :: rest)) :
    Staged regions rest where
  canonical := staged.canonical
  resolved := (List.forall_mem_cons.mp staged.resolved).2
  distinct := (List.nodup_cons.mp staged.distinct).2
  covers := (List.forall_mem_cons.mp staged.covers).2

/-- The entries of declared indexes. Those before the first that cannot be ensured are bound if they
are kept, and no others. -/
def stocked (regions : Regions) (keeps : Declaration → Bool) :
    List (String × Declaration) → List (String × Managed)
  | [] => []
  | e :: rest =>
    match ensured regions e.1 e.2.definition with
    | .error _ => (e :: rest).map entry
    | .ok handle =>
      placed (if keeps e.2 then some handle else none) e :: stocked regions keeps rest

section

variable {regions : Regions} {declared : List (String × Declaration)} {keeps : Declaration → Bool}

theorem stocked_error {e : String × Declaration} {rest : List (String × Declaration)}
    {failure : Failure} (found : ensured regions e.1 e.2.definition = .error failure) :
    stocked regions keeps (e :: rest) = (e :: rest).map entry := by
  rw [stocked, found]

theorem stocked_ok {e : String × Declaration} {rest : List (String × Declaration)}
    {handle : Handle} (found : ensured regions e.1 e.2.definition = .ok handle) :
    stocked regions keeps (e :: rest) =
      (e.1, (placed (if keeps e.2 then some handle else none) e).2) ::
        stocked regions keeps rest := by
  rw [stocked, found]
  rfl

theorem names_stocked : (stocked regions keeps declared).map (·.1) = declared.map (·.1) := by
  induction declared with
  | nil => rfl
  | cons e rest ih =>
    rw [stocked]
    split
    · simp [entry, Function.comp_def]
    · simp [ih]

theorem stocked_never : stocked regions never declared = declared.map entry := by
  induction declared with
  | nil => rfl
  | cons e rest ih =>
    rw [stocked]
    split
    · rfl
    · rw [ih]
      rfl

/-- The store holds what the entries are bound to. -/
def EachHeld (store : IndexStore) (entries : List (String × Managed)) : Prop :=
  ∀ x ∈ entries, Holds store x.1 x.2.bound

theorem SameBut.eachHeld {names : List String} {store store' : IndexStore}
    {entries : List (String × Managed)} (same : SameBut names store store')
    (apart : ∀ x ∈ entries, x.1 ∉ names) (held : EachHeld store entries) :
    EachHeld store' entries := fun x member =>
  same.holds (apart x member) (held x member)

theorem Staged.apart {e : String × Declaration} {rest : List (String × Declaration)}
    (staged : Staged regions (e :: rest)) {entries : List (String × Managed)}
    (names : entries.map (·.1) = rest.map (·.1)) : ∀ x ∈ entries, x.1 ∉ [e.1] := by
  intro x member same
  apply (List.nodup_cons.mp staged.distinct).1
  have inside : x.1 ∈ rest.map (·.1) := names ▸ List.mem_map_of_mem member
  rwa [List.mem_singleton.mp same] at inside

/-- Declared indexes are ensured in order, up to the first that fails. -/
theorem ensureEntries_run (only : CacheOnly s) (staged : Staged w.regions declared)
    (held : EachHeld w.store (stocked w.regions keeps declared)) :
    ∃ store,
      (Catalogue.ensureEntries registryOnly (stocked w.regions keeps declared)).run
          s.surroundings w =
        ((declared.mapM fun e => ensured w.regions e.1 e.2.definition,
          stocked w.regions always declared), { w with store := store }) ∧
      EachHeld store (stocked w.regions always declared) ∧
      SameBut (declared.map (·.1)) w.store store := by
  induction declared generalizing w with
  | nil => exact ⟨w.store, rfl, held, .refl _ _⟩
  | cons e rest ih =>
    have resolved := staged.resolved e List.mem_cons_self
    have covers := staged.covers e List.mem_cons_self
    rw [List.mapM_cons]
    cases found : ensured w.regions e.1 e.2.definition with
    | error failure =>
      rw [stocked_error found] at held ⊢
      obtain ⟨first, later⟩ := List.forall_mem_cons.mp held
      obtain ⟨store, run, holds, same⟩ := ensure_run only staged.canonical resolved covers first
      rw [found] at run holds
      have apart : ∀ x ∈ rest.map entry, x.1 ∉ [e.1] :=
        staged.apart (by simp [entry, Function.comp_def])
      refine ⟨store, ?_, ?_, ?_⟩
      · rw [stocked_error found, List.map_cons]
        have shape : entry e = (e.1, (entry e).2) := rfl
        rw [shape]
        simp only [Catalogue.ensureEntries, Program.run_bind, run]
        rfl
      · rw [stocked_error found]
        exact List.forall_mem_cons.mpr ⟨holds, same.eachHeld apart later⟩
      · exact fun name absent => same name fun here => absent (by simp_all)
    | ok handle =>
      rw [stocked_ok found] at held
      obtain ⟨first, later⟩ := List.forall_mem_cons.mp held
      rw [placed_bound] at first
      obtain ⟨store, run, holds, same⟩ :=
        ensure_placed_run only staged.canonical resolved covers found (keeps e.2) first
      have apart {keeps : Declaration → Bool} : ∀ x ∈ stocked w.regions keeps rest, x.1 ∉ [e.1] :=
        staged.apart names_stocked
      obtain ⟨store', runs, held', same'⟩ :=
        @ih { w with store := store } staged.tail (same.eachHeld apart later)
      have still : Holds store' e.1 (some handle) :=
        same'.holds (List.nodup_cons.mp staged.distinct).1 holds
      refine ⟨store', ?_, ?_, same.trans same'⟩
      · rw [stocked_ok found, stocked_ok found]
        simp only [Catalogue.ensureEntries, Program.run_bind, run, runs, Program.run_pure]
        cases rest.mapM fun e => ensured w.regions e.1 e.2.definition <;> rfl
      · rw [stocked_ok found]
        exact List.forall_mem_cons.mpr ⟨by simpa [always] using still, held'⟩

/-- Declared indexes that are not to outlast the process are destroyed, and none refuses. -/
theorem destroyEntries_run (s : Setting) (staged : Staged regions declared)
    (held : EachHeld w.store (stocked regions keeps declared)) :
    let left := stocked regions (fun d => keeps d && lasting d) declared
    ∃ store, (Catalogue.destroyEntries (stocked regions keeps declared)).run s.surroundings w =
        ((none, left), { w with store := store }) ∧
      EachHeld store left ∧ SameBut (declared.map (·.1)) w.store store := by
  induction declared generalizing w with
  | nil => exact ⟨w.store, rfl, held, .refl _ _⟩
  | cons e rest ih =>
    cases found : ensured regions e.1 e.2.definition with
    | error failure =>
      rw [stocked_error found] at held
      simp only [stocked_error found]
      exact ⟨w.store, by rw [destroyEntries_unbound]; rfl, held, .refl _ _⟩
    | ok handle =>
      rw [stocked_ok found] at held
      simp only [stocked_ok found]
      obtain ⟨first, later⟩ := List.forall_mem_cons.mp held
      obtain ⟨store, runs, held', same⟩ := ih staged.tail later
      have fresh := (List.nodup_cons.mp staged.distinct).1
      obtain ⟨store', run, holds, same'⟩ := @destroy_placed_run { w with store := store } s e _
        (name_ensured found) (keeps e.2) (same.holds fresh (by simpa using first))
      refine ⟨store', ?_, List.forall_mem_cons.mpr ⟨?_, same'.eachHeld ?_ held'⟩, ?_⟩
      · simp only [Catalogue.destroyEntries, Program.run_bind, runs, run, Program.run_pure]
      · simpa using holds
      · exact staged.apart names_stocked
      · intro name absent path
        simp only [List.map_cons, List.mem_cons, not_or] at absent
        rw [same' name (by simp [absent.1]), same name absent.2]

end

end Rehearsal
end GatedStartup
