import Mathlib.Data.List.Perm.Basic
import GatedStartup.Proofs.DryRun
import GatedStartup.Proofs.RepeatedRuns

/-! What a dry run leaves in its store. Runs may fail and be made again, and each failure destroys
what is to go with the process; after a shutdown the store has the lasting indexes that come before
the first failing declaration, and no others. -/
namespace GatedStartup

open Engine Index Lookup Declaration

namespace Rehearsal

section

variable {w : Stage} {regions : Regions} {declared : List (String × Declaration)}
  {keeps : Declaration → Bool} {c : Catalogue}

def handlesOf (entries : List Entry) : List Handle := entries.filterMap (·.2.bound)

/-- An index as the store keeps it. -/
def keyed (handle : Handle) : IndexKey × Handle := (⟨handle.name, handle.regionPath⟩, handle)

theorem handlesOf_unbound (declared : List (String × Declaration)) :
    handlesOf (declared.map entry) = [] := by
  simp [handlesOf, Managed.bound, Function.comp_def]

theorem names_handlesOf :
    ((handlesOf (stocked regions keeps declared)).map (·.name)).Sublist (declared.map (·.1)) := by
  induction declared with
  | nil => exact .slnil
  | cons e rest ih =>
    cases found : ensured regions e.1 e.2.definition with
    | error failure =>
      rw [stocked_error found, handlesOf_unbound]
      exact List.nil_sublist _
    | ok handle =>
      rw [stocked_ok found, handlesOf, List.filterMap_cons, placed_bound]
      cases keeps e.2 with
      | false => exact ih.cons _
      | true =>
        simp only [if_true, List.map_cons, name_ensured found]
        exact ih.cons_cons _

/-- The store has what the entries are bound to. -/
theorem Stocked.entries_perm (stock : Stocked regions declared keeps c w)
    (staged : Staged regions declared) (ordered : w.store.indexes.Ordered) :
    w.store.indexes.entries.Perm ((handlesOf (stocked regions keeps declared)).map keyed) := by
  have stored : w.store.indexes.entries.Nodup :=
    ordered.imp fun less same => Table.ne_of_lt less (congrArg Prod.fst same)
  have handed : ((handlesOf (stocked regions keeps declared)).map keyed).Nodup := by
    refine List.Nodup.map (fun one other same => congrArg Prod.snd same) ?_
    exact (staged.distinct.sublist names_handlesOf).of_map _
  refine (List.perm_ext_iff_of_nodup stored handed).mpr fun ⟨⟨name, path⟩, handle⟩ => ?_
  rw [Table.mem_entries_iff ordered]
  constructor
  · intro there
    by_cases known : name ∈ declared.map (·.1)
    · have names : (stocked regions keeps declared).map (·.1) = declared.map (·.1) := names_stocked
      rw [← names] at known
      obtain ⟨x, member, rfl⟩ := List.mem_map.mp known
      obtain ⟨bound, located⟩ : x.2.bound = some handle ∧ handle.regionPath = path := by
        simpa [stock.held x member path, Option.filter_eq_some_iff] using there
      obtain ⟨_, _, follows⟩ := of_mem_stocked member
      refine List.mem_map.mpr ⟨handle, List.mem_filterMap.mpr ⟨x, member, bound⟩, ?_⟩
      simp [keyed, follows.named bound, located]
    · simp [stock.others name known path] at there
  · intro member
    obtain ⟨handle', inside, same⟩ := List.mem_map.mp member
    obtain ⟨x, inside, bound⟩ := List.mem_filterMap.mp inside
    obtain ⟨_, _, follows⟩ := of_mem_stocked inside
    simp only [keyed, Prod.mk.injEq, IndexKey.mk.injEq] at same
    obtain ⟨⟨rfl, rfl⟩, rfl⟩ := same
    rw [follows.named bound, stock.held x inside, bound]
    simp [Option.filter]

/-- Of an index that is to go with the process nothing is in the store once what is kept spares it. -/
theorem Stocked.gone (stock : Stocked regions declared keeps c w)
    (staged : Staged regions declared) (sparing : Sparing keeps) {e : String × Declaration}
    (member : e ∈ declared) (flagged : e.2.definition.destroyOnShutdown = true) (path : String) :
    w.store.indexes.contains ⟨e.1, path⟩ = false := by
  have listed : e.1 ∈ (stocked regions keeps declared).map (·.1) :=
    names_stocked ▸ List.mem_map_of_mem member
  obtain ⟨x, inside, named⟩ := List.mem_map.mp listed
  obtain ⟨e', inside', follows⟩ := of_mem_stocked inside
  obtain rfl : e' = e :=
    List.inj_on_of_nodup_map staged.distinct inside' member (follows.name.symm.trans named)
  have unbound := unbound_of_sparing sparing inside (follows.definition ▸ flagged)
  have held := stock.held x inside path
  rw [named] at held
  simp [Table.contains, held, Managed.bound, unbound]

end

end Rehearsal

/-- The lasting ones of the indexes before the first that cannot be ensured. -/
def Declaration.leftovers (paths : List String) : List (String × Declaration) → List Handle
  | [] => []
  | e :: rest =>
    match e.2.foretold paths e.1 with
    | .error _ => []
    | .ok handle =>
      if e.2.definition.destroyOnShutdown then leftovers paths rest
      else handle :: leftovers paths rest

/-- What is left after runs and a shutdown: nothing when a realm does not start. -/
def Configuration.leftovers (c : Configuration) (present : Bool) : List Handle :=
  match if present then c.realms.find? (·.users.isEmpty) else none with
  | some _ => []
  | none => Declaration.leftovers c.regionPaths (firstNamed c.indexes)

namespace Rehearsal

theorem handlesOf_lasting (declarations : List Declaration)
    {declared : List (String × Declaration)} (members : ∀ e ∈ declared, e.2 ∈ declarations) :
    handlesOf (stocked (createRegions declarations) lasting declared) =
      Declaration.leftovers (declarations.flatMap Declaration.regionPaths) declared := by
  induction declared with
  | nil => rfl
  | cons e rest ih =>
    obtain ⟨member, later⟩ := List.forall_mem_cons.mp members
    have foreseen := ensured_eq_foretold e.1 member
    rw [Declaration.leftovers]
    cases found : ensured (createRegions declarations) e.1 e.2.definition with
    | error failure =>
      rw [stocked_error found, handlesOf_unbound, ← foreseen, found]
    | ok handle =>
      rw [stocked_ok found, handlesOf, List.filterMap_cons, placed_bound, ← foreseen, found]
      have others := ih later
      rw [handlesOf] at others
      cases flagged : e.2.definition.destroyOnShutdown <;> simp [lasting, flagged, others]

/-- An index is only created on a region that is there, and those have canonical paths. -/
theorem canonical_handlesOf {declarations : List Declaration} {keeps : Declaration → Bool}
    {declared : List (String × Declaration)} {handle : Handle}
    (member : handle ∈ handlesOf (stocked (createRegions declarations) keeps declared)) :
    canonical? handle.regionPath = some handle.regionPath := by
  obtain ⟨x, inside, bound⟩ := List.mem_filterMap.mp member
  obtain ⟨e, -, follows⟩ := of_mem_stocked inside
  have found := follows.found handle bound
  unfold ensured at found
  split at found
  · contradiction
  · split at found
    · next there =>
      cases found
      obtain ⟨d, -, own⟩ := List.mem_flatMap.mp (((createRegions_spec declarations).2 _).mp there)
      rw [Declaration.regionPaths] at own
      cases configured : d.definition.configuredPath? with
      | none => simp [configured] at own
      | some path => exact canonical?_of_mem_ancestry (by simpa [configured] using own)
    · contradiction

theorem leftovers_of_mapM {paths : List String} {declared : List (String × Declaration)}
    {handles : List Handle} (all : (declared.mapM fun e => e.2.foretold paths e.1) = .ok handles) :
    handles.length = declared.length ∧ Declaration.leftovers paths declared =
      (declared.zip handles).filterMap fun each => if lasting each.1.2 then some each.2 else none := by
  induction declared generalizing handles with
  | nil =>
    cases all
    exact ⟨rfl, rfl⟩
  | cons e rest ih =>
    obtain ⟨handle, handles', first, later, rfl⟩ := Lists.mapM_cons_eq_ok all
    obtain ⟨length, left⟩ := ih later
    rw [Declaration.leftovers, first]
    cases flagged : e.2.definition.destroyOnShutdown <;> simp [length, left, lasting, flagged]

/-- Ensuring an index has nothing to do with activation. -/
theorem ensured_ne_activation {regions : Regions} {name : String} {d : Definition}
    {error : ActivationError} : ensured regions name d ≠ .error (.activation error) := by
  unfold ensured
  split
  · nofun
  · split <;> nofun

/-- What runs and a shutdown leave in the store, and how they have come to it. -/
structure Leaves (c : Configuration) (present : Bool)
    (results : List (Except Failure Startup.Report)) (ended : Except Failure Unit) (t : Transcript)
    (store : IndexStore) : Prop where
  ended : ended = .ok ()
  unrefused : Unrefused t
  held : store.indexes.entries.Perm ((c.leftovers present).map keyed)
  canonical : ∀ handle ∈ c.leftovers present,
    canonical? handle.regionPath = some handle.regionPath
  /-- When a run succeeds it reports all indexes, and the lasting ones are left. -/
  succeeded : ∀ report, .ok report ∈ results →
    report.indexes.length = (firstNamed c.indexes).length ∧
      c.leftovers present = ((firstNamed c.indexes).zip report.indexes).filterMap fun each =>
        if lasting each.1.2 then some each.2 else none
  locked : ∀ error, .error (.activation error) ∈ results → c.leftovers present = []
  destroyed : ∀ e ∈ firstNamed c.indexes, e.2.definition.destroyOnShutdown = true →
    ∀ front service path fields rest,
      t = front ++ ⟨.createIndex service e.1 path fields, .ok ()⟩ :: rest →
      ∃ service' handle, ⟨.destroyIndex service' handle, .ok ()⟩ ∈ rest ∧
        handle.name = e.1 ∧ handle.regionPath = path
  balance : t.countP Exchange.creates =
    t.countP Exchange.destroys + (c.leftovers present).length

section

variable {c : Configuration} {environment : String → Option String} {programs : String → Bool}

/-- Whatever the runs come to, the shutdown leaves what is foretold. -/
theorem Verdict.left {s : Setting} {present : Bool} {result : Except Failure Startup.Report}
    {keeps : Declaration → Bool} (accounts : s.accounts = c.realms)
    (verdict : Verdict s present (createRegions c.indexes) (firstNamed c.indexes) result keeps) :
    Sparing (fun d => keeps d && lasting d) ∧
      handlesOf (stocked (createRegions c.indexes) (fun d => keeps d && lasting d)
        (firstNamed c.indexes)) = c.leftovers present := by
  refine ⟨fun d kept => (Bool.and_eq_true _ _ ▸ kept).2, ?_⟩
  have members : ∀ e ∈ firstNamed c.indexes, e.2 ∈ c.indexes := fun _ => mem_of_firstNamed
  rw [Configuration.leftovers, ← accounts]
  cases verdict with
  | locked first =>
    have nothing : (fun d => never d && lasting d) = never := rfl
    rw [first, nothing, stocked_never, handlesOf_unbound]
  | failed first =>
    have same : (fun d => lasting d && lasting d) = lasting := by simp
    rw [first, same]
    exact handlesOf_lasting c.indexes members
  | up first =>
    have same : (fun d => always d && lasting d) = lasting := rfl
    rw [first, same]
    exact handlesOf_lasting c.indexes members

theorem Verdict.of_ok {s : Setting} {present : Bool} {report : Startup.Report}
    {keeps : Declaration → Bool} (accounts : s.accounts = c.realms)
    (verdict : Verdict s present (createRegions c.indexes) (firstNamed c.indexes) (.ok report)
      keeps) :
    report.indexes.length = (firstNamed c.indexes).length ∧
      c.leftovers present = ((firstNamed c.indexes).zip report.indexes).filterMap fun each =>
        if lasting each.1.2 then some each.2 else none := by
  cases verdict with
  | up first all =>
    rw [mapM_ensured] at all
    rw [Configuration.leftovers, ← accounts, first]
    exact leftovers_of_mapM all

theorem Verdict.of_locked {s : Setting} {present : Bool} {error : ActivationError}
    {keeps : Declaration → Bool} (accounts : s.accounts = c.realms)
    (verdict : Verdict s present (createRegions c.indexes) (firstNamed c.indexes)
      (.error (.activation error)) keeps) : c.leftovers present = [] := by
  cases verdict with
  | locked first => rw [Configuration.leftovers, ← accounts, first]
  | failed _ fails =>
    obtain ⟨e, -, failed⟩ := Lists.mapM_eq_error fails
    exact absurd failed ensured_ne_activation

theorem gates_compose {r : Rehearsal} (composed : compose c none environment programs = .ok r) :
    r.gates.integrationPresent =
      (EnvironmentProbe.configured c.integrations environment programs).isPresent
        securityIntegration := by
  obtain ⟨setting, -, -, -, ready, -⟩ := ready_compose composed
  rw [gates, ready.gates_run, setting]
  rfl

/-- The runs of a composition all come to the same, and the shutdown then finds nothing in its way. -/
theorem rehearse_clean {r : Rehearsal} (composed : compose c none environment programs = .ok r)
    (n : Nat) :
    ∃ result keeps st w,
      Verdict r.setting r.gates.integrationPresent (createRegions c.indexes)
        (firstNamed c.indexes) result keeps ∧
      Clean r.setting (r.startup.rehearse r.collaborators (n + 1)) r.stage
        ((List.replicate (n + 1) result, .ok ()), st) w ∧
      Stocked (createRegions c.indexes) (firstNamed c.indexes) (fun d => keeps d && lasting d)
        st.catalogue w ∧
      r.setting.accounts = c.realms ∧ r.stage.store = .empty := by
  obtain ⟨setting, collaborators, -, -, ready, empty⟩ := ready_compose composed
  have staged := staged_firstNamed c.indexes
  have only : CacheOnly r.setting := setting ▸ cacheOnly_settingOf c environment programs
  have accounts : r.setting.accounts = c.realms := by rw [setting]; rfl
  have present : r.setting.probe.isPresent securityIntegration = r.gates.integrationPresent := by
    rw [gates_compose composed, setting]
    rfl
  rw [present] at ready
  obtain ⟨result, keeps, st, w, verdict, runs, open_, stock⟩ := runs_run only staged ready n
  obtain ⟨st', w', shutdown, stock'⟩ := shutdown_clean (s := r.setting) staged open_ stock
  refine ⟨result, keeps, st', w', verdict, ?_, stock', accounts, empty⟩
  rw [collaborators]
  exact runs.bind (shutdown.bind (.pure _))

/-- However many runs are made of a composition, and whatever they come to, a shutdown leaves the
lasting indexes that could be ensured. -/
theorem rehearse_leaves {r : Rehearsal} (composed : compose c none environment programs = .ok r)
    (n : Nat) :
    let whole := r.startup.rehearse r.collaborators (n + 1)
    let done := r.perform whole
    Leaves c r.gates.integrationPresent done.1.1 done.1.2
      (whole.events r.setting.surroundings r.stage) done.2.stage.store := by
  intro whole done
  obtain ⟨result, keeps, st, w, verdict, clean, stock, accounts, empty⟩ :=
    rehearse_clean composed n
  have staged := staged_firstNamed c.indexes
  have last : done = ((List.replicate (n + 1) result, .ok ()), { r with startup := st, stage := w }) := by
    change r.perform whole = _
    rw [perform, clean.run]
  obtain ⟨sparing, left⟩ := verdict.left accounts
  have ordered : r.stage.store.indexes.Ordered := by rw [empty]; exact .nil
  obtain ⟨ordered', tally⟩ := store_tally (s := r.setting) whole r.stage ordered
  rw [clean.run] at ordered' tally
  have held := stock.entries_perm staged ordered'
  rw [left] at held
  rw [last]
  have outcome {result'} (member : result' ∈ List.replicate (n + 1) result) : result' = result :=
    List.eq_of_mem_replicate member
  refine ⟨rfl, clean.unrefused, held, ?_, ?_, ?_, ?_, ?_⟩
  · intro handle member
    exact canonical_handlesOf (left ▸ member)
  · intro report member
    obtain rfl := outcome member
    exact verdict.of_ok accounts
  · intro error member
    obtain rfl := outcome member
    exact verdict.of_locked accounts
  · intro e member flagged front service path fields rest created
    refine destroyed_of_created whole r.stage created ?_
    rw [clean.run]
    exact stock.gone staged sparing member flagged path
  · have size : w.store.indexes.size = (c.leftovers r.gates.integrationPresent).length := by
      simpa [Table.size] using held.length_eq
    have none : r.stage.store.indexes.size = 0 := by rw [empty]; rfl
    have counted := tally clean.unrefused
    simp only [size, none, Nat.zero_add] at counted
    rw [Nat.add_comm]
    exact counted.symm

/-- Realms that start, and indexes of which one that is to go with the process and one that is not
come before one without a region. -/
def depot : Configuration where
  component := "depot"
  integrations := [securityIntegration]
  attributes := .vacant
  realms := [⟨"staff", .ofList [("ann", "key")]⟩]
  indexes := [
    ⟨"depot", { Definition.vacant with
      name := "orders", regionPath := some "sales//orders ", fields := ["id"] }⟩,
    ⟨"depot", { Definition.vacant with
      name := "parcels", regionPath := some "/parcels", destroyOnShutdown := true }⟩,
    ⟨"depot", { Definition.vacant with name := "astray" }⟩,
    ⟨"depot", { Definition.vacant with name := "stock", regionPath := some "/stock" }⟩]

/-- Every run fails at the third index. It creates and destroys the second, and the shutdown leaves
the first. -/
theorem depot_leaves :
    depot.foretold = .error (.configuration .missingRegion) ∧
      ∃ r, compose depot none (fun _ => none) (fun _ => false) = .ok r ∧
        let whole := r.startup.rehearse r.collaborators 3
        let done := r.perform whole
        Leaves depot r.gates.integrationPresent done.1.1 done.1.2
            (whole.events r.setting.surroundings r.stage) done.2.stage.store ∧
          done.2.stage.store.handles = [⟨"orders", "/sales/orders", .names ["id"]⟩] := by
  obtain ⟨r, composed⟩ : ∃ r, compose depot none (fun _ => none) (fun _ => false) = .ok r :=
    (compose_named none _ _ (by decide)).elim fun _ registered => ⟨_, registered⟩
  have bare : Bare (fun _ => none) fun _ => false := ⟨rfl, rfl, rfl⟩
  have integrated : depot.integrated = true := by decide
  have present := (gates_compose composed).trans
    ((EnvironmentProbe.isPresent_configured bare _).trans integrated)
  have left : depot.leftovers true = [⟨"orders", "/sales/orders", .names ["id"]⟩] := by decide
  have started : (if depot.integrated then depot.realms.find? (·.users.isEmpty) else none) = none :=
    by decide
  have outcomes : ((firstNamed depot.indexes).mapM fun e => Declaration.foretold depot.regionPaths e.1
      e.2) = .error (.configuration .missingRegion) := by decide
  have fails : depot.foretold = .error (.configuration .missingRegion) := by
    rw [Configuration.foretold, started]
    simp only [outcomes, Except.map]
  have leaves := rehearse_leaves composed 2
  have held := leaves.held
  rw [present, left] at held
  exact ⟨fails, r, composed, leaves, List.perm_singleton.mp (held.map Prod.snd)⟩

end

end Rehearsal
end GatedStartup
