import GatedStartup.Proofs.Regions
import GatedStartup.Proofs.Transcript
import GatedStartup.Rehearsal.Composition

/-! What a configuration declares: the regions that its declarations name, and the first
declaration of each index name. A composition has created the ones and registered the others. -/
namespace GatedStartup

open Engine Index Lookup Text

namespace Declaration

/-- The name that the declared index goes by. -/
def name? (d : Declaration) : Option String := d.definition.indexName? (some d.component)

theorem name?_eq_none {d : Declaration} :
    d.name? = none ↔ isBlank d.definition.name = true ∧ isBlank d.component = true := by
  simp only [name?, Definition.indexName?, Option.bind_some, Option.or_eq_none_iff, trimmed?]
  split <;> split <;> simp_all

def entry (named : String × Declaration) : String × Managed :=
  (named.1, .unbound named.2.definition (some named.2.component))

/-- The first declaration of each name, in order. -/
def firstNamed : List Declaration → List (String × Declaration)
  | [] => []
  | d :: rest =>
    match d.name? with
    | none => firstNamed rest
    | some name => (name, d) :: (firstNamed rest).filter (·.1 ≠ name)

theorem distinct_firstNamed (declarations : List Declaration) :
    ((firstNamed declarations).map (·.1)).Nodup := by
  induction declarations with
  | nil => exact List.nodup_nil
  | cons d rest ih =>
    rw [firstNamed]
    split
    · exact ih
    · next name _ =>
      rw [List.map_cons, List.nodup_cons]
      refine ⟨by simp, ih.sublist (List.filter_sublist.map _)⟩

theorem name?_firstNamed {declarations : List Declaration} {named : String × Declaration}
    (member : named ∈ firstNamed declarations) : named.2.name? = some named.1 := by
  induction declarations with
  | nil => contradiction
  | cons d rest ih =>
    rw [firstNamed] at member
    split at member
    · exact ih member
    · next name resolved =>
      rcases List.mem_cons.mp member with rfl | later
      · exact resolved
      · exact ih (List.mem_filter.mp later).1

theorem mem_of_firstNamed {declarations : List Declaration} {named : String × Declaration}
    (member : named ∈ firstNamed declarations) : named.2 ∈ declarations := by
  induction declarations with
  | nil => contradiction
  | cons d rest ih =>
    rw [firstNamed] at member
    split at member
    · exact List.mem_cons_of_mem _ (ih member)
    · rcases List.mem_cons.mp member with rfl | later
      · exact List.mem_cons_self
      · exact List.mem_cons_of_mem _ (ih (List.mem_filter.mp later).1)

/-- A declaration comes before the others unless its name is taken, and takes its name. -/
theorem firstNamed_fresh {d : Declaration} {rest : List Declaration} {name : String}
    (named : d.name? = some name) (taken : List String) :
    (firstNamed (d :: rest)).filter (·.1 ∉ taken) =
      (if name ∈ taken then [] else [(name, d)]) ++
        (firstNamed rest).filter (·.1 ∉ taken ++ if name ∈ taken then [] else [name]) := by
  by_cases known : name ∈ taken
  · have others : ∀ e ∈ firstNamed rest,
        (decide (e.1 ∉ taken) && decide (e.1 ≠ name)) = decide (e.1 ∉ taken) := by
      intro e _
      by_cases same : e.1 = name <;> simp [same, known]
    simpa [firstNamed, named, known, List.filter_filter] using List.filter_congr others
  · simp [firstNamed, named, known, List.filter_filter]

/-- What a declaration adds to the first ones of their names. -/
def addition (d : Declaration) (taken : List String) : List (String × Declaration) :=
  d.name?.elim [] fun name => if name ∈ taken then [] else [(name, d)]

theorem firstNamed_concat (declarations : List Declaration) (d : Declaration) :
    firstNamed (declarations ++ [d]) =
      firstNamed declarations ++ d.addition ((firstNamed declarations).map (·.1)) := by
  induction declarations with
  | nil => cases named : d.name? <;> simp [firstNamed, addition, named]
  | cons first rest ih =>
    rw [List.cons_append, firstNamed, firstNamed, ih]
    cases named : first.name? with
    | none => rfl
    | some name =>
      have same : (d.addition ((firstNamed rest).map (·.1))).filter (·.1 ≠ name) =
          d.addition (name :: ((firstNamed rest).filter (·.1 ≠ name)).map (·.1)) := by
        cases resolved : d.name? with
        | none => simp [addition, resolved]
        | some other =>
          by_cases here : other = name
          · by_cases known : name ∈ (firstNamed rest).map (·.1) <;>
              simp [addition, resolved, here, known]
          · by_cases known : other ∈ (firstNamed rest).map (·.1) <;>
              simp_all [addition]
      simp only [List.filter_append, same, List.map_cons, List.cons_append]

/-- The regions that are created for a declaration. -/
def regionPaths (d : Declaration) : List String := d.definition.configuredPath?.elim [] ancestry

end Declaration

open Declaration

theorem Index.Catalogue.get?_eq_none {c : Catalogue} {name : String} :
    c.get? name = none ↔ name ∉ c.names := by
  rw [get?, List.lookup_eq_none_iff, names, List.mem_map]
  constructor
  · rintro absent ⟨e, member, rfl⟩
    exact absurd (absent e member) (by simp)
  · intro absent e member
    exact bne_iff_ne.mpr fun same => absent ⟨e, member, same.symm⟩

theorem Index.Catalogue.mem_names {c : Catalogue} {name : String} {x : Managed}
    (known : c.get? name = some x) : name ∈ c.names := by
  by_contra absent
  simp [get?_eq_none.mpr absent] at known

theorem Index.Catalogue.names_extended {c : Catalogue} {name : String} {d : Declaration} :
    (⟨c.entries ++ if name ∈ c.names then [] else [entry (name, d)]⟩ : Catalogue).names =
      c.names ++ if name ∈ c.names then [] else [name] := by
  split <;> simp [names, entry]

namespace Rehearsal

theorem createRegions_concat (declarations : List Declaration) (d : Declaration) :
    createRegions (declarations ++ [d]) =
      match d.definition.configuredPath? with
      | none => createRegions declarations
      | some path => ((createRegions declarations).create path).2 := by
  rw [createRegions, List.foldl_append]
  rfl

/-- The regions of a composition are those that its declarations name, with all above them. -/
theorem createRegions_spec (declarations : List Declaration) :
    (createRegions declarations).Canonical ∧ ∀ p, (createRegions declarations).contains p = true ↔
      p ∈ declarations.flatMap regionPaths := by
  induction declarations using List.reverseRecOn with
  | nil => exact ⟨Regions.canonical_empty, by simp [createRegions, Table.contains]⟩
  | append_singleton declarations d ih =>
    obtain ⟨canonical, contains⟩ := ih
    rw [createRegions_concat]
    cases configured : d.definition.configuredPath? with
    | none => exact ⟨canonical, fun p => by simp [contains, regionPaths, configured]⟩
    | some path =>
      obtain ⟨still, added⟩ := Regions.create_spec canonical path
      exact ⟨still, fun p => by simp [added, contains, regionPaths, configured]⟩

variable {setting : Setting} {d : Declaration} {name : String}

theorem indexName_unbound :
    (Managed.unbound d.definition (some d.component)).indexName =
      d.name?.elim (.error (.missingField "index_name")) .ok := by
  rw [Managed.indexName, Managed.unbound, ← name?]
  cases d.name? <;> rfl

theorem register_run_unnamed (setting : Setting) (s : Startup) (w : Stage)
    (unnamed : d.name? = none) :
    ((s.register d.component d.definition).run setting.surroundings w).1.1 =
      .error (.missingField "index_name") := by
  simp [Startup.register, Catalogue.register, indexName_unbound, unnamed]

/-- Registering adds the index unless its name is known, and asks for nothing but warnings. -/
theorem register_run (setting : Setting) (s : Startup) (w : Stage) (named : d.name? = some name) :
    ∃ listed warnings, (s.register d.component d.definition).run setting.surroundings w =
      ((.ok listed, { s with catalogue := ⟨s.catalogue.entries ++
          if name ∈ s.catalogue.names then [] else [entry (name, d)]⟩ }),
        { w with warnings := warnings }) := by
  simp only [Startup.register, Catalogue.register, indexName_unbound, named, Option.elim_some]
  cases known : s.catalogue.get? name with
  | none =>
    have absent := Catalogue.get?_eq_none.mp known
    exact ⟨(name, .unbound d.definition (some d.component)), w.warnings, by simp [absent, entry]⟩
  | some x =>
    have listed := Catalogue.mem_names known
    by_cases same : x.definition.agrees d.definition = true
    · exact ⟨(name, x), w.warnings, by simp [listed, same]⟩
    · refine ⟨(name, x), w.warnings ++ [.redefinition name d.component], ?_⟩
      simp only [listed, same, if_true, List.append_nil, Program.run_bind, Program.run_pure]
      rfl

theorem registerAll_run_unnamed {declarations : List Declaration}
    (unnamed : ∃ d ∈ declarations, d.name? = none) (s : Startup) (w : Stage) :
    ((registerAll s declarations).run setting.surroundings w).1.1 =
      .error (.missingField "index_name") := by
  induction declarations generalizing s w with
  | nil => simp at unnamed
  | cons d rest ih =>
    simp only [registerAll, Program.run_bind]
    cases resolved : d.name? with
    | none =>
      have failed := register_run_unnamed setting s w resolved
      generalize (s.register d.component d.definition).run setting.surroundings w = registered
        at failed ⊢
      obtain ⟨⟨result, s'⟩, w'⟩ := registered
      obtain rfl : result = _ := failed
      rfl
    | some name =>
      obtain ⟨listed, warnings, registered⟩ := register_run setting s w resolved
      rw [registered]
      exact ih (by simpa [resolved] using unnamed) _ _

/-- Registering declarations leaves the first of each name that was not known. -/
theorem registerAll_run (setting : Setting) {declarations : List Declaration}
    (named : ∀ d ∈ declarations, d.name? ≠ none) (s : Startup) (w : Stage) :
    ∃ warnings, (registerAll s declarations).run setting.surroundings w =
      ((.ok (), { s with catalogue := ⟨s.catalogue.entries ++
          ((firstNamed declarations).filter (·.1 ∉ s.catalogue.names)).map entry⟩ }),
        { w with warnings := warnings }) := by
  induction declarations generalizing s w with
  | nil => exact ⟨w.warnings, by simp [registerAll, firstNamed]⟩
  | cons d rest ih =>
    obtain ⟨first, later⟩ := List.forall_mem_cons.mp named
    obtain ⟨name, resolved⟩ := Option.ne_none_iff_exists'.mp first
    obtain ⟨listed, warnings, registered⟩ := register_run setting s w resolved
    simp only [registerAll, Program.run_bind, registered]
    obtain ⟨warnings', all⟩ := ih later
      { s with catalogue := ⟨s.catalogue.entries ++
          if name ∈ s.catalogue.names then [] else [entry (name, d)]⟩ }
      { w with warnings := warnings }
    refine ⟨warnings', all.trans ?_⟩
    rw [firstNamed_fresh resolved, Catalogue.names_extended]
    by_cases known : name ∈ s.catalogue.names <;> simp [known]

section

variable {c : Configuration} {slot : Option Manager} {environment : String → Option String}
  {programs : String → Bool}

theorem compose_unnamed (unnamed : ∃ d ∈ c.indexes, d.name? = none) :
    compose c slot environment programs = .error (.missingField "index_name") := by
  simp only [compose]
  rw [registerAll_run_unnamed unnamed]

theorem compose_named (slot : Option Manager) (environment : String → Option String)
    (programs : String → Bool) (named : ∀ d ∈ c.indexes, d.name? ≠ none) :
    ∃ warnings, compose c slot environment programs =
      .ok ⟨settingOf c environment programs, ⟨none, none, some theRegistry⟩,
        { startupOf c with catalogue := ⟨(firstNamed c.indexes).map entry⟩ },
        { stageOf c slot with warnings := warnings }⟩ := by
  obtain ⟨warnings, all⟩ := registerAll_run (settingOf c environment programs) named
    (startupOf c) (stageOf c slot)
  refine ⟨warnings, ?_⟩
  simp only [compose, all]
  simp [startupOf, Startup.fresh, Catalogue.names, Catalogue.empty]

end

end Rehearsal
end GatedStartup
