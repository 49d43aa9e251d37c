import GatedStartup.Proofs.CatalogueHistory

/-! The indexes that a successful run reports are settled by what is registered and by the regions
that are there. Runs that failed, shutdowns and other people's managers leave some indexes bound and
others destroyed, and none of it shows. -/
namespace GatedStartup

open Engine Index Lookup Declaration

section

variable {h : Surroundings W} {cache : Ref .cache} {service : Ref .service} {memory : W → Memory}
  {k : Collaborators} {want : String → Option Handle} {regions : Regions} {s : Startup} {w : W}

/-- Without realms nothing can fail before the indexes are ensured. -/
theorem Startup.secure_bare (h : Surroundings W) (bare : s.realms = []) (gates : Gates) (w : W) :
    ∃ manager, ((s.secure gates).run h w).1.1 = .ok manager := by
  have idle : s.lifecycle.start s.realms = pure (.ok (), s.lifecycle) := by rw [bare]; rfl
  have started : s.startRealms gates = pure (.ok (), s) := by
    rw [startRealms, idle, pure_bind]
    exact ite_self _
  rw [secure, started, pure_bind]
  simp only [Program.run_bind, Activation.activate, bare]
  cases s.activation.active <;> exact ⟨_, rfl⟩

namespace KeepsMemory

theorem secure_run (keeps : KeepsMemory h cache service memory) (s : Startup) (gates : Gates)
    (w : W) :
    ((s.secure gates).run h w).1.2.catalogue = s.catalogue ∧
      memory ((s.secure gates).run h w).2 = memory w := by
  have secured := Startup.secure_ends (Program.ends_events h (s.secure gates) w)
  exact ⟨secured.catalogue_eq, keeps.spared secured.spares_search⟩

theorem stopRealms_run (keeps : KeepsMemory h cache service memory) (s : Startup) (w : W) :
    (s.stopRealms.run h w).1.catalogue = s.catalogue ∧
      memory (s.stopRealms.run h w).2 = memory w := by
  obtain ⟨stopping, same⟩ := Startup.stopRealms_ends (Program.ends_events h s.stopRealms w)
  exact ⟨by rw [same], keeps.spared (stopping.spares (by decide))⟩

theorem deactivate_run (keeps : KeepsMemory h cache service memory) (a : Activation) (w : W) :
    memory (a.deactivate.run h w).2 = memory w :=
  keeps.spared
    ((Activation.deactivate_ends (Program.ends_events h a.deactivate w)).spares
      (by decide) (by decide))

theorem rollback_run (keeps : KeepsMemory h cache service memory)
    (stocked : (memory w).Stocked regions want)
    (fit : ∀ e ∈ s.catalogue.entries, Fits want regions service e) :
    Tidied want regions service s.catalogue.entries (s.rollback.run h w).1.catalogue.entries
      (memory (s.rollback.run h w).2) := by
  obtain ⟨destroyed, c, w₁, run, tidied⟩ := keeps.destroyAll_run stocked fit
  have undo (w : W) (same : memory w = memory w₁) :
      let a := s.activation.deactivate.run h w
      let undone := { s with catalogue := c, activation := a.1.2 }.stopRealms.run h a.2
      Tidied want regions service s.catalogue.entries undone.1.catalogue.entries
        (memory undone.2) := by
    intro a undone
    obtain ⟨kept, stopped⟩ :=
      keeps.stopRealms_run { s with catalogue := c, activation := a.1.2 } a.2
    rw [kept, stopped, keeps.deactivate_run, same]
    exact tidied
  simp only [Startup.rollback, Program.run_bind, run]
  cases destroyed <;> simp only [Program.run_bind]
  case ok => exact undo w₁ rfl
  case error failure => exact undo _ (keeps.others (.warn (.rollbackIncomplete failure)) w₁ rfl)

theorem shutdown_run (keeps : KeepsMemory h cache service memory)
    (stocked : (memory w).Stocked regions want)
    (fit : ∀ e ∈ s.catalogue.entries, Fits want regions service e) :
    Tidied want regions service s.catalogue.entries (s.shutdown.run h w).1.2.catalogue.entries
      (memory (s.shutdown.run h w).2) := by
  rw [Startup.shutdown]
  split
  · exact ⟨rfl, fit, stocked⟩
  obtain ⟨destroyed, c, w₁, run, tidied⟩ := keeps.destroyAll_run stocked fit
  have stop (w : W) (same : memory w = memory w₁) :
      let stopped := { s with catalogue := c, ended := true }.stopRealms.run h w
      Tidied want regions service s.catalogue.entries stopped.1.catalogue.entries
        (memory stopped.2) := by
    intro stopped
    obtain ⟨kept, silent⟩ := keeps.stopRealms_run { s with catalogue := c, ended := true } w
    rw [kept, silent, same]
    exact tidied
  simp only [Program.run_bind, run]
  cases destroyed <;> simp only [Program.run_bind, Program.run_pure]
  case ok => exact stop w₁ rfl
  case error failure => exact stop _ (keeps.others (.warn (.teardownIncomplete failure)) w₁ rfl)

/-- A run fails in activation, or comes to the wanted indexes if it can have all of them. -/
theorem startup_run (keeps : KeepsMemory h cache service memory) (offers : Offers h k cache)
    (canonical : regions.Canonical) (stocked : (memory w).Stocked regions want)
    (fit : ∀ e ∈ s.catalogue.entries, Fits want regions service e) :
    Tidied want regions service s.catalogue.entries ((s.run k).run h w).1.2.catalogue.entries
        (memory ((s.run k).run h w).2) ∧
      ((s.realms ≠ [] ∧ ∃ error, ((s.run k).run h w).1.1 = .error (.activation error)) ∨
        ∀ handles, ((s.run k).run h w).1.1.map (·.indexes) = .ok handles ↔
          s.catalogue.entries.map (want ·.1) = handles.map some) := by
  have looked : memory (s.gates.run h w).2 = memory w := keeps.others _ w rfl
  simp only [Startup.run, Program.run_bind]
  generalize s.gates.run h w = gates at looked
  obtain ⟨kept, secured⟩ := keeps.secure_run s gates.1 gates.2
  have secured_ok := fun bare : s.realms = [] => Startup.secure_bare h bare gates.1 gates.2
  generalize (s.secure gates.1).run h gates.2 = securing at kept secured secured_ok
  obtain ⟨⟨result, s₁⟩, w₁⟩ := securing
  have stocked₁ : (memory w₁).Stocked regions want := secured.trans looked ▸ stocked
  simp only at kept
  cases result with
  | error error =>
    simp only [Program.run_bind, Program.run_pure]
    obtain ⟨kept', stopped⟩ := keeps.stopRealms_run s₁ w₁
    rw [kept', stopped, kept]
    exact ⟨⟨rfl, fit, stocked₁⟩, .inl ⟨fun bare => by simpa using secured_ok bare, error, rfl⟩⟩
  | ok manager =>
    rw [← kept] at fit
    obtain ⟨result, c, w₂, run, iff, tidied⟩ := keeps.ensureAll_run offers canonical stocked₁ fit
    simp only [Program.run_bind, run, ← kept]
    cases result with
    | error failure =>
      simp only [Program.run_bind, Program.run_pure]
      have back := keeps.rollback_run (s := { s₁ with catalogue := c }) tidied.stocked
        tidied.fit
      refine ⟨⟨back.released.trans tidied.released, back.fit, back.stocked⟩, .inr fun handles => ?_⟩
      rw [← iff]
      simp [Except.map]
    | ok found =>
      refine ⟨tidied, .inr fun handles => ?_⟩
      rw [← iff]
      rfl

end KeepsMemory
end

namespace Declaration

variable {declared : List Declaration} {regions regions' : Regions} {name : String}
  {handle : Handle}

/-- The index that is wanted under a name: that of its first declaration, if its region is there. -/
def wanted (declared : List Declaration) (regions : Regions) (name : String) : Option Handle :=
  ((firstNamed declared).lookup name).bind fun d => d.definition.provided? regions name

theorem wanted_firstNamed {named : String × Declaration} (member : named ∈ firstNamed declared) :
    wanted declared regions named.1 = named.2.definition.provided? regions named.1 := by
  have first : (firstNamed declared).lookup named.1 = some named.2 := by
    obtain ⟨front, rest, whole⟩ := List.append_of_mem member
    have distinct := distinct_firstNamed declared
    refine List.lookup_eq_some_iff.mpr ⟨front, rest, whole, fun other inside => ?_⟩
    rw [whole, List.map_append, List.nodup_append] at distinct
    exact bne_iff_ne.mpr (distinct.2.2 _ (List.mem_map_of_mem inside) _ (by simp)).symm
  rw [wanted, first, Option.bind_some]

theorem wanted_eq_some : wanted declared regions name = some handle ↔
    ∃ d, (firstNamed declared).lookup name = some d ∧ d.definition.handle? name = some handle ∧
      regions.contains handle.regionPath = true := by
  simp only [wanted, Option.bind_eq_some_iff, Definition.provided?_eq_some]

/-- Where every wanted index can be had, these are the indexes that the declarations stand for. -/
theorem handles_eq {handles : List Handle}
    (all : (firstNamed declared).map (wanted declared regions ·.1) = handles.map some) :
    handles.map some =
      (firstNamed declared).map fun named => named.2.definition.handle? named.1 := by
  rw [← all]
  refine List.map_congr_left fun named member => ?_
  have had : wanted declared regions named.1 ∈ handles.map some :=
    all ▸ List.mem_map_of_mem member
  obtain ⟨handle, -, wants⟩ := List.mem_map.mp had
  rw [← wants]
  exact (Definition.provided?_eq_some.mp ((wanted_firstNamed member).symm.trans wants.symm)).1.symm

/-- What is wanted stays so when regions are added and when more is declared. -/
theorem wanted_grows (wants : wanted declared regions name = some handle) (more : List Declaration)
    (grown : ∀ path, regions.contains path = true → regions'.contains path = true) :
    wanted (declared ++ more) regions' name = some handle := by
  obtain ⟨d, listed, stands, there⟩ := wanted_eq_some.mp wants
  refine wanted_eq_some.mpr ⟨d, ?_, stands, grown _ there⟩
  induction more using List.reverseRecOn with
  | nil => rwa [List.append_nil]
  | append_singleton more last ih =>
    rw [← List.append_assoc, firstNamed_concat, List.lookup_append, ih]
    rfl

end Declaration

/-- The entries are those that were declared, and neither they nor the engine keep an index that is
not wanted. -/
structure Faithful (declared : List Declaration) (service : Ref .service) (c : Catalogue)
    (m : Memory) : Prop where
  canonical : m.regions.Canonical
  unreferenced : ∀ d ∈ declared, d.definition.region = none
  listed : c.entries.map Entry.released = (firstNamed declared).map entry
  bound : ∀ e ∈ c.entries, ∀ b, e.2.binding = some b →
    b.service = service ∧ wanted declared m.regions e.1 = some b.handle
  stocked : m.Stocked m.regions (wanted declared m.regions)

namespace Faithful

variable {declared : List Declaration} {service : Ref .service} {c c' : Catalogue} {m m' : Memory}

theorem lists (faithful : Faithful declared service c m) : c.Lists declared := faithful.listed

theorem fit (faithful : Faithful declared service c m) :
    ∀ e ∈ c.entries, Fits (wanted declared m.regions) m.regions service e := by
  intro e member
  obtain ⟨named, inside, name, definition, -⟩ := faithful.lists.of_mem member
  refine ⟨faithful.lists.well.named e member, ?_, ?_, faithful.bound e member⟩
  · rw [definition]
    exact faithful.unreferenced named.2 (mem_of_firstNamed inside)
  · rw [name, definition, wanted_firstNamed inside]

/-- What is wanted of the entries is what is wanted of the declared names. -/
theorem wants_eq (faithful : Faithful declared service c m) (want : String → Option Handle) :
    c.entries.map (want ·.1) = (firstNamed declared).map (want ·.1) := by
  have names := congrArg (List.map want) faithful.lists.names_eq
  simpa [Catalogue.names, Function.comp_def] using names

theorem tidied (faithful : Faithful declared service c m)
    (tidied : Tidied (wanted declared m.regions) m.regions service c.entries c'.entries m') :
    Faithful declared service c' m' := by
  have there := tidied.stocked.there
  refine ⟨there ▸ faithful.canonical, faithful.unreferenced, tidied.released.trans faithful.listed,
    fun e member => ?_, ?_⟩
  · rw [there]
    exact (tidied.fit e member).bound
  · rw [there]
    exact tidied.stocked

/-- More may be declared and more regions created, as long as nothing is bound or stored by it. -/
theorem grown (faithful : Faithful declared service c m) (more : List Declaration)
    (canonical : m'.regions.Canonical)
    (regions : ∀ path, m.regions.contains path = true → m'.regions.contains path = true)
    (indexes : m'.store.indexes = m.store.indexes)
    (unreferenced : ∀ d ∈ more, d.definition.region = none)
    (listed : c'.entries.map Entry.released = (firstNamed (declared ++ more)).map entry)
    (bound : ∀ e ∈ c'.entries, e.2.binding ≠ none → e ∈ c.entries) :
    Faithful (declared ++ more) service c' m' where
  canonical := canonical
  unreferenced := List.forall_mem_append.mpr ⟨faithful.unreferenced, unreferenced⟩
  listed := listed
  bound e member b binds := by
    obtain ⟨own, wants⟩ := faithful.bound e (bound e member (by simp [binds])) b binds
    exact ⟨own, wanted_grows wants more regions⟩
  stocked := by
    refine ⟨rfl, fun key handle there => ?_⟩
    rw [indexes] at there
    obtain ⟨wants, located⟩ := faithful.stocked.stored key handle there
    exact ⟨wanted_grows wants more regions, located⟩

theorem created (faithful : Faithful declared service c m) (path : String) :
    Faithful declared service c ⟨(m.regions.create path).2, m.store⟩ := by
  obtain ⟨canonical, contains⟩ := Regions.create_spec faithful.canonical path
  have still : Faithful (declared ++ []) service c ⟨(m.regions.create path).2, m.store⟩ :=
    faithful.grown [] canonical (fun p there => (contains p).mpr (.inl there)) rfl (by simp)
      (by simpa using faithful.listed) (fun _ member _ => member)
  rwa [List.append_nil] at still

end Faithful

/-- What a call registers. -/
def Call.declares : Call → List Declaration
  | .register component definition => [⟨component, definition⟩]
  | _ => []

section

variable {W : Type} {h : Surroundings W} {cache : Ref .cache} {service : Ref .service}
  {memory : W → Memory} {k : Collaborators} {declared : List Declaration} {scene : Scene W}

/-- Every call leaves what is kept of the indexes as it is wanted. -/
theorem Faithful.after (keeps : KeepsMemory h cache service memory) (offers : Offers h k cache)
    (faithful : Faithful declared service scene.startup.catalogue (memory scene.world)) (c : Call)
    (unreferenced : ∀ d ∈ c.declares, d.definition.region = none) :
    Faithful (declared ++ c.declares) service (scene.after h k c).startup.catalogue
      (memory (scene.after h k c).world) := by
  cases c with
  | register component definition =>
    let d : Declaration := ⟨component, definition⟩
    have ends := Program.ends_events h (scene.startup.catalogue.register component definition)
      scene.world
    have same := keeps.spared ((Catalogue.register_ends ends).spares (by decide))
    have registering := Catalogue.register_registering (d := d) ends
    simp only [Scene.after, Startup.call, Startup.register, Program.run_bind, Program.run_pure]
    refine faithful.grown [d] (by rw [same]; exact faithful.canonical) (by simp [same])
      (by rw [same]) unreferenced ?_ ?_
    · exact faithful.lists.registering registering
    · intro e member binds
      rw [registering.entries_eq] at member
      refine (List.mem_append.mp member).resolve_right fun added => ?_
      obtain ⟨named, -, rfl⟩ := List.mem_map.mp added
      exact binds rfl
  | addRealm realm =>
    simpa [Call.declares, Scene.after, Startup.call, Startup.addRealm] using faithful
  | run =>
    obtain ⟨tidied, -⟩ := keeps.startup_run offers faithful.canonical faithful.stocked faithful.fit
    simpa [Call.declares, Scene.after, Startup.call] using faithful.tidied tidied
  | shutdown =>
    have tidied := keeps.shutdown_run faithful.stocked faithful.fit
    simpa [Call.declares, Scene.after, Startup.call] using faithful.tidied tidied

end

/-- The regions of an engine in which these paths were created one after the other. -/
def Engine.Regions.ofPaths (paths : List String) : Regions :=
  paths.foldl (fun regions path => (regions.create path).2) .empty

theorem Engine.Regions.canonical_ofPaths (paths : List String) : (ofPaths paths).Canonical := by
  induction paths using List.reverseRecOn with
  | nil => exact canonical_empty
  | append_singleton paths path ih =>
    rw [ofPaths, List.foldl_concat]
    exact (create_spec ih path).1

/-- What a startup over an engine can come to, and what was registered on the way. The engine has no
indexes at first. Between the calls regions are created, and others do what they like as long as
they leave the engine alone. -/
inductive Served (h : Surroundings W) (cache : Ref .cache) (memory : W → Memory) :
    List Declaration → Scene W → Prop where
  | start (s : Startup) (w : W) (paths : List String) : s.Untouched →
      (memory w).regions = .ofPaths paths → (memory w).store.indexes = .empty →
      Served h cache memory [] ⟨s, w, [], []⟩
  | call (k : Collaborators) (c : Call) : Served h cache memory declared scene → Offers h k cache →
      (∀ d ∈ c.declares, d.definition.region = none) →
      Served h cache memory (declared ++ c.declares) (scene.after h k c)
  | createRegion (path : String) (w : W) : Served h cache memory declared scene →
      memory w =
        ⟨((memory scene.world).regions.create path).2, (memory scene.world).store⟩ →
      Served h cache memory declared { scene with world := w }
  | elsewhere (w : W) : Served h cache memory declared scene →
      memory w = memory scene.world → Served h cache memory declared { scene with world := w }

section

variable {W : Type} {h : Surroundings W} {cache : Ref .cache} {service : Ref .service}
  {memory : W → Memory} {k : Collaborators} {declared : List Declaration} {scene : Scene W}

theorem Served.faithful (served : Served h cache memory declared scene)
    (keeps : KeepsMemory h cache service memory) :
    Faithful declared service scene.startup.catalogue (memory scene.world) := by
  induction served with
  | start s w paths untouched created vacant =>
    have bare : s.catalogue.entries = [] := by rw [untouched.unregistered]; rfl
    refine ⟨created ▸ Regions.canonical_ofPaths paths, by simp, by rw [bare]; rfl, by simp [bare],
      rfl, ?_⟩
    simp [vacant]
  | call k c _ offers unreferenced ih => exact ih.after keeps offers c unreferenced
  | createRegion path w _ created ih => exact created ▸ ih.created path
  | elsewhere w _ same ih => exact same ▸ ih

/-- The indexes of a run that succeeds are those that the declarations stand for. Any other startup
with the same declarations over an engine with the same regions comes to them too, one that is built
anew among others, unless it has realms and its activation fails. -/
theorem Served.history_free (served : Served h cache memory declared scene)
    (keeps : KeepsMemory h cache service memory) (offers : Offers h k cache)
    {report : Startup.Report} (ran : scene.outcome h k .run = .ran (.ok report)) :
    report.indexes.map some =
        (firstNamed declared).map (fun named => named.2.definition.handle? named.1) ∧
      ∀ (W' : Type) (h' : Surroundings W') (cache' : Ref .cache) (service' : Ref .service)
        (memory' : W' → Memory) (k' : Collaborators) (scene' : Scene W'),
        Served h' cache' memory' declared scene' → KeepsMemory h' cache' service' memory' →
        Offers h' k' cache' → (memory' scene'.world).regions = (memory scene.world).regions →
          (∃ report', scene'.outcome h' k' .run = .ran (.ok report') ∧
            report'.indexes = report.indexes) ∨
          scene'.startup.realms ≠ [] ∧
            ∃ error, scene'.outcome h' k' .run = .ran (.error (.activation error)) := by
  have faithful := served.faithful keeps
  rw [Scene.outcome_run, Call.Outcome.ran.injEq] at ran
  obtain ⟨-, ⟨-, error, failed⟩ | comes⟩ :=
    keeps.startup_run offers faithful.canonical faithful.stocked faithful.fit
  · simp [ran] at failed
  have all := (comes report.indexes).mp (by rw [ran]; rfl)
  rw [faithful.wants_eq] at all
  refine ⟨handles_eq all, ?_⟩
  intro W' h' cache' service' memory' k' scene' served' keeps' offers' same
  have faithful' := served'.faithful keeps'
  rw [Scene.outcome_run]
  obtain ⟨-, ⟨realms, error, failed⟩ | comes'⟩ :=
    keeps'.startup_run offers' faithful'.canonical faithful'.stocked faithful'.fit
  · exact .inr ⟨realms, error, congrArg Call.Outcome.ran failed⟩
  have reports := (comes' report.indexes).mpr (by rw [faithful'.wants_eq, same, all])
  left
  cases result : ((scene'.startup.run k').run h' scene'.world).1.1 with
  | error failure => simp [result, Except.map] at reports
  | ok report' => exact ⟨report', rfl, by simpa [result, Except.map] using reports⟩

end

namespace Trial

open Rehearsal

def withCache : Collaborators := ⟨some theCache, none, none⟩

theorem offers_withCache : Offers setting.surroundings withCache theCache := ⟨.inl rfl, rfl, nofun⟩

def follow (scene : Scene Stage) (c : Call) : Scene Stage :=
  scene.after setting.surroundings withCache c

def bins : Definition :=
  { Definition.vacant with
    name := "bins", regionPath := some " depot/", fields := ["id"], destroyOnShutdown := true }

def parcels : Definition :=
  { Definition.vacant with name := "parcels", regionPath := some "/depot" }

def wares : List Declaration := [⟨"shop", bins⟩, ⟨"shop", parcels⟩, ⟨"shop", orders⟩]

def opened (realms : List Realm) (paths : List String) : Scene Stage where
  startup := { Startup.fresh "shop" theProbe (.inactive 0 theSlot theSwitch) with realms := realms }
  world := ⟨.ofPaths paths, .empty, false, none, []⟩
  past := []
  outcomes := []

/-- Built anew over an engine with these regions, with the indexes registered. -/
def furnished (realms : List Realm) (paths : List String) : Scene Stage :=
  follow (follow (follow (opened realms paths)
    (.register "shop" bins)) (.register "shop" parcels)) (.register "shop" orders)

theorem served_furnished (realms : List Realm) (paths : List String) :
    Served setting.surroundings theCache Stage.memory wares (furnished realms paths) := by
  have opened : Served setting.surroundings theCache Stage.memory [] (opened realms paths) :=
    .start _ _ paths ⟨rfl, rfl, rfl, rfl⟩ rfl rfl
  have unreferenced {d : Definition} (bare : d.region = none) :
      ∀ e ∈ (Call.register "shop" d).declares, e.definition.region = none := by
    simpa [Call.declares] using bare
  exact ((opened.call _ _ offers_withCache (unreferenced rfl)).call _ _ offers_withCache
    (unreferenced rfl)).call _ _ offers_withCache (unreferenced rfl)

/-- A run that fails, and then the missing region and another's manager. -/
def contested : Scene Stage :=
  let failed := follow (furnished [staff] ["depot"]) .run
  { failed with world := { failed.world with
      regions := (failed.world.regions.create "orders").2, slot := some ⟨⟨1, 0⟩, [guests]⟩ } }

/-- A second run that fails, and then an empty slot. -/
def renovated : Scene Stage :=
  let refused := follow contested .run
  { refused with world.slot := none }

theorem served_renovated :
    Served setting.surroundings theCache Stage.memory wares renovated := by
  have failed := (served_furnished [staff] ["depot"]).call _ .run offers_withCache
    (by simp [Call.declares])
  have contested : Served setting.surroundings theCache Stage.memory wares contested :=
    failed.createRegion "orders" _ rfl
  have refused := contested.call _ .run offers_withCache (by simp [Call.declares])
  exact refused.elsewhere _ rfl

/-- In the first run `bins` is made and taken back and `parcels` stays, and in the second nothing is
looked for. The third run comes to what a startup built anew comes to. -/
theorem renovated_history_free :
    (∃ failure, (furnished [staff] ["depot"]).outcome setting.surroundings withCache .run =
        .ran (.error (.search failure))) ∧
      contested.outcome setting.surroundings withCache .run =
        .ran (.error (.activation .alreadyRegistered)) ∧
      ∃ report report',
        renovated.outcome setting.surroundings withCache .run = .ran (.ok report) ∧
        (furnished [] ["depot", "orders"]).outcome setting.surroundings withCache .run =
          .ran (.ok report') ∧
        report.indexes = [⟨"bins", "/depot", .names ["id"]⟩,
          ⟨"parcels", "/depot", .names [wholeValueField]⟩,
          ⟨"orders", "/orders", .names [wholeValueField]⟩] ∧
        report'.indexes = report.indexes := by
  obtain ⟨-, anew⟩ := served_renovated.history_free (keepsMemory setting) offers_withCache rfl
  refine ⟨⟨_, rfl⟩, rfl, ?_⟩
  rcases anew _ _ _ _ _ _ _ (served_furnished [] ["depot", "orders"]) (keepsMemory setting)
    offers_withCache rfl with ⟨report', ran, same⟩ | ⟨realms, -⟩
  · exact ⟨_, report', rfl, ran, rfl, same⟩
  · exact absurd rfl realms

end Trial
end GatedStartup
