import GatedStartup.Proofs.HistoryFree

/-! Where the index of a definition is looked for in an engine that has its regions in memory: at
the path of the region, however it is spelled, and as configured without one. What is configured
never happens to be the path of a region that is not found by it. -/
namespace GatedStartup

open Engine Index Lookup Text

namespace Engine

/-- The text spells the segments. They stand between slashes with any white space around them, and
there may be slashes with nothing else between them. -/
inductive Spells : List String → String → Prop where
  | blank {text : String} : isBlank text = true → Spells [] text
  | segment {s front back : String} : Segment s → isBlank front = true → isBlank back = true →
      Spells [s] (front ++ (s ++ back))
  | slash {found found' : List String} {text text' : String} : Spells found text →
      Spells found' text' → Spells (found ++ found') (text ++ "/" ++ text')

variable {found : List String} {text front back : String}

theorem not_slash_of_isBlank (blank : isBlank text = true) : '/' ∉ text.toList := by
  intro member
  have slash : isBlankChar '/' = true := List.all_eq_true.mp blank _ member
  exact absurd slash (by decide)

theorem segments_of_not_mem (whole : '/' ∉ text.toList) :
    segments text = (trimmed? text).toList := by
  have piece : split '/' text = [text] := by simp [split, splitChars_of_not_mem whole]
  rw [segments, piece, List.filterMap_cons]
  cases trimmed? text <;> rfl

theorem segments_append_slash (text text' : String) :
    segments (text ++ "/" ++ text') = segments text ++ segments text' := by
  rw [segments, split_append (by simp), List.filterMap_append, segments, segments]

theorem isBlank_append : isBlank (front ++ back) = (isBlank front && isBlank back) := by
  simp [isBlank]

theorem Spells.segments_eq (spells : Spells found text) : segments text = found := by
  induction spells with
  | blank blank =>
    rw [segments_of_not_mem (not_slash_of_isBlank blank), trimmed?, if_pos blank]
    rfl
  | segment segment before after =>
    have whole := segment.whole
    have first := not_slash_of_isBlank before
    have last := not_slash_of_isBlank after
    rw [segments_of_not_mem (by simp [whole, first, last]), trimmed?_between before after,
      segment.text]
    rfl
  | slash _ _ ih ih' => rw [segments_append_slash, ih, ih']

theorem spells_piece (whole : '/' ∉ text.toList) : Spells (trimmed? text).toList text := by
  cases trimmed : trimmed? text with
  | none =>
    refine .blank ?_
    simpa [trimmed?] using trimmed
  | some s =>
    have segment : Segment s :=
      ⟨trimmed?_trimmed? trimmed, fun slash => whole (mem_of_trimmed? trimmed slash)⟩
    obtain ⟨front, back, before, after, around⟩ := exists_trim text
    rw [around, trim_eq_of_trimmed? trimmed]
    exact .segment segment before after

/-- Every text is a spelling of its segments. -/
theorem spells_segments (text : String) : Spells (segments text) text := by
  have pieces (parts : List (List Char)) (some : parts ≠ [])
      (whole : ∀ part ∈ parts, '/' ∉ part) :
      Spells ((parts.map String.ofList).filterMap trimmed?)
        (String.ofList (['/'].intercalate parts)) := by
    induction parts with
    | nil => contradiction
    | cons part rest ih =>
      obtain ⟨first, later⟩ := List.forall_mem_cons.mp whole
      have own : Spells (trimmed? (.ofList part)).toList (.ofList part) :=
        spells_piece (by simpa using first)
      have cut : ((part :: rest).map String.ofList).filterMap trimmed? =
          (trimmed? (.ofList part)).toList ++ (rest.map String.ofList).filterMap trimmed? := by
        rw [List.map_cons, List.filterMap_cons]
        cases trimmed? (.ofList part) <;> rfl
      rw [cut]
      cases rest with
      | nil => simpa using own
      | cons next rest =>
        rw [List.intercalate_cons_cons]
        simpa [String.append_assoc] using own.slash (ih (by simp) later)
  have all := pieces (splitChars '/' text.toList) (splitChars_ne_nil _ _)
    fun _ => not_mem_splitChars
  simpa [intercalate_splitChars, segments, split] using all

theorem spells_iff : Spells found text ↔ segments text = found :=
  ⟨Spells.segments_eq, fun same => same ▸ spells_segments text⟩

theorem Spells.between (spells : Spells found text) (before : isBlank front = true)
    (after : isBlank back = true) : Spells found (front ++ (text ++ back)) := by
  induction spells generalizing front back with
  | blank blank => exact .blank (by simp [isBlank_append, before, blank, after])
  | @segment s inner outer segment first last =>
    have wider : Spells [s] ((front ++ inner) ++ (s ++ (outer ++ back))) :=
      .segment segment (by simp [isBlank_append, before, first])
        (by simp [isBlank_append, after, last])
    simpa [String.append_assoc] using wider
  | slash _ _ ih ih' =>
    have first : Spells _ (front ++ (_ ++ "")) := ih before rfl
    have last : Spells _ ("" ++ (_ ++ back)) := ih' rfl after
    simpa [String.append_assoc] using first.slash last

/-- White space around a path is not in its segments. -/
theorem segments_trimmed {trimmed : String} (kept : trimmed? text = some trimmed) :
    segments trimmed = segments text := by
  obtain ⟨front, back, before, after, around⟩ := exists_trim text
  rw [around, trim_eq_of_trimmed? kept]
  exact ((spells_segments trimmed).between before after).segments_eq.symm

/-- A service that knows the regions refuses an index just when its path is not the very path of a
region, as long as there is something to index. -/
theorem IndexStore.create_refused_iff (store : IndexStore) {regions : Regions} {name path : String}
    {fields : Fields} (nonempty : fields.toNames.isEmpty = false) :
    (store.create (some regions) name path fields).1 =
        .error (.createFailed name ("region " ++ path ++ " does not exist")) ↔
      regions.contains path = false := by
  cases there : regions.contains path <;>
    cases listed : store.indexes.contains ⟨name, path⟩ <;>
      simp [create, refusal?, nonempty, there, listed]

end Engine

/-- What a definition comes to in an engine with these regions. -/
structure Located (h : Surroundings W) (k : Collaborators) (regions : Regions) (d : Definition)
    (w : W) : Prop where
  /-- A reference counts, whatever path is configured. -/
  referenced : ∀ region, d.region = some region →
    ((k.resolveRegionPath d).run h w).1 = .ok ⟨region.fullPath, .regionFullPath⟩
  existing : d.region = none → ∀ p c, d.configuredPath? = some p → canonical? p = some c →
    regions.contains c = true → ((k.resolveRegionPath d).run h w).1 = .ok ⟨c, .regionFullPath⟩
  literal : d.region = none → ∀ p, d.configuredPath? = some p →
    (∀ c, canonical? p = some c → regions.contains c = false) →
    ((k.resolveRegionPath d).run h w).1 = .ok ⟨p, .configuredPath⟩
  missing : d.region = none → d.configuredPath? = none →
    ((k.resolveRegionPath d).run h w).1 = .error .missingRegion
  /-- An index can be created at the path just when the configured path finds a region. -/
  admitted : d.region = none → ∀ p resolved, d.configuredPath? = some p →
    ((k.resolveRegionPath d).run h w).1 = .ok resolved →
      (regions.contains resolved.value = true ↔ (regions.find? p).isSome = true) ∧
        ∀ (store : IndexStore) (name : String),
          (store.create (some regions) name resolved.value d.coverage).1 =
              .error (.createFailed name ("region " ++ resolved.value ++ " does not exist")) ↔
            regions.find? p = none
  /-- However a region is spelled, its own path comes out. -/
  spelled : d.region = none → ∀ text found, d.regionPath = some text → Spells found text →
    regions.contains (joined found) = true →
      ((k.resolveRegionPath d).run h w).1 = .ok ⟨joined found, .regionFullPath⟩

section

variable {W : Type} {h : Surroundings W} {cache : Ref .cache} {service : Ref .service}
  {memory : W → Memory} {k : Collaborators} {w : W} {d : Definition} {paths : List String}

theorem resolveRegionPath_referenced {region : Region} (referenced : d.region = some region) :
    ((k.resolveRegionPath d).run h w).1 = .ok ⟨region.fullPath, .regionFullPath⟩ := by
  rw [Collaborators.resolveRegionPath, Chain.resolveOr, Collaborators.regionPathChain,
    Chain.resolve_finding, Collaborators.fullPath, Collaborators.resolveRegion,
    Collaborators.regionChain, referenced, Chain.resolve_value]
  rfl

/-- What is found is found under its own path, which is the canonical one. -/
theorem Engine.Regions.Canonical.of_find? {regions : Regions} {path : String} {region : Region}
    (canonical : regions.Canonical) (found : regions.find? path = some region) :
    canonical? path = some region.fullPath ∧ regions.contains region.fullPath = true := by
  obtain ⟨q, spelled, listed⟩ := Option.bind_eq_some_iff.mp found
  obtain rfl := (canonical q region listed).1
  exact ⟨spelled, by simp [Table.contains, listed]⟩

namespace KeepsMemory

section

variable (keeps : KeepsMemory h cache service memory)
  (resolves : (k.resolveCache.run h w).1.map (·.value) = some cache)
  (canonical : (memory w).regions.Canonical) (unreferenced : d.region = none)

include keeps resolves canonical unreferenced

theorem resolveRegionPath_existing {p c : String} (configured : d.configuredPath? = some p)
    (spelled : canonical? p = some c) (there : (memory w).regions.contains c = true) :
    ((k.resolveRegionPath d).run h w).1 = .ok ⟨c, .regionFullPath⟩ := by
  obtain ⟨region, listed⟩ := Option.isSome_iff_exists.mp there
  have found : (memory w).regions.find? p = some region := by
    rw [Regions.find?, spelled]
    exact listed
  rw [keeps.resolveRegionPath resolves unreferenced, configured]
  simp [found, (canonical c region listed).1]

theorem resolveRegionPath_literal {p : String} (configured : d.configuredPath? = some p)
    (absent : ∀ c, canonical? p = some c → (memory w).regions.contains c = false) :
    ((k.resolveRegionPath d).run h w).1 = .ok ⟨p, .configuredPath⟩ := by
  have missed : (memory w).regions.find? p = none := by
    by_contra found
    obtain ⟨region, found⟩ := Option.ne_none_iff_exists'.mp found
    obtain ⟨spelled, there⟩ := canonical.of_find? found
    simp [absent _ spelled] at there
  rw [keeps.resolveRegionPath resolves unreferenced, configured]
  simp [missed]

/-- A path that finds no region is not the path of a region either. -/
theorem contains_resolved {p : String} {resolved : Resolved String}
    (configured : d.configuredPath? = some p)
    (comes : ((k.resolveRegionPath d).run h w).1 = .ok resolved) :
    (memory w).regions.contains resolved.value = ((memory w).regions.find? p).isSome := by
  rw [keeps.resolveRegionPath resolves unreferenced, configured] at comes
  cases found : (memory w).regions.find? p with
  | none =>
    obtain rfl : ⟨p, .configuredPath⟩ = resolved := by simpa [found] using comes
    exact Bool.eq_false_iff.mpr fun there => by simpa [found] using canonical.isSome_find? there
  | some region =>
    obtain rfl : ⟨region.fullPath, .regionFullPath⟩ = resolved := by simpa [found] using comes
    exact (canonical.of_find? found).2

theorem resolveRegionPath_spelled {text : String} {found : List String}
    (configured : d.regionPath = some text) (spells : Spells found text)
    (there : (memory w).regions.contains (joined found) = true) :
    ((k.resolveRegionPath d).run h w).1 = .ok ⟨joined found, .regionFullPath⟩ := by
  have nonempty : found ≠ [] := by
    rintro rfl
    obtain ⟨region, listed⟩ := Option.isSome_iff_exists.mp there
    exact absurd (canonical _ region listed).2 (by decide)
  cases trimmed : trimmed? text with
  | none =>
    have blank : isBlank text = true := by simpa [trimmed?] using trimmed
    exact absurd (spells.segments_eq.symm.trans (Spells.blank blank).segments_eq) nonempty
  | some p =>
    have path : d.configuredPath? = some p := by
      rw [Definition.configuredPath?, configured]
      exact trimmed
    have same : segments p = found := (segments_trimmed trimmed).trans spells.segments_eq
    have spelled : canonical? p = some (joined found) :=
      canonical?_eq_some.mpr ⟨same.symm ▸ nonempty, by rw [same]⟩
    exact keeps.resolveRegionPath_existing resolves canonical unreferenced path spelled there

end

theorem located (keeps : KeepsMemory h cache service memory)
    (created : (memory w).regions = .ofPaths paths)
    (resolves : (k.resolveCache.run h w).1.map (·.value) = some cache) (d : Definition) :
    Located h k (memory w).regions d w := by
  have canonical : (memory w).regions.Canonical := created ▸ Regions.canonical_ofPaths paths
  constructor
  case referenced => exact fun region => resolveRegionPath_referenced
  case existing =>
    exact fun unreferenced p c => keeps.resolveRegionPath_existing resolves canonical unreferenced
  case literal =>
    exact fun unreferenced p => keeps.resolveRegionPath_literal resolves canonical unreferenced
  case missing =>
    intro unreferenced unconfigured
    rw [keeps.resolveRegionPath resolves unreferenced, unconfigured]
    rfl
  case admitted =>
    intro unreferenced p resolved configured comes
    have agree := keeps.contains_resolved resolves canonical unreferenced configured comes
    refine ⟨by rw [agree], fun store name => ?_⟩
    rw [IndexStore.create_refused_iff store (Rehearsal.coverage_nonempty d), agree]
    simp
  case spelled =>
    exact fun unreferenced text found =>
      keeps.resolveRegionPath_spelled resolves canonical unreferenced

end KeepsMemory

end

namespace Trial

open Rehearsal

/-- Another spelling of a region that was created as `depot/north`. -/
def strewn : Definition :=
  { Definition.vacant with name := "bins", regionPath := some " //depot / north/ " }

/-- A region that was not created. -/
def fenced : Definition :=
  { Definition.vacant with name := "bins", regionPath := some " depot/south/" }

/-- What is configured is not looked at. -/
def pinned : Definition := { fenced with region := some ⟨"south", "/yard/south"⟩ }

def resolvedIn (paths : List String) (d : Definition) :
    Except ConfigurationError (Resolved String) :=
  ((withCache.resolveRegionPath d).run setting.surroundings (opened [] paths).world).1

theorem strewn_located :
    Spells ["depot", "north"] " //depot / north/ " ∧
      resolvedIn ["depot/north"] strewn = .ok ⟨"/depot/north", .regionFullPath⟩ ∧
      resolvedIn ["depot/north"] fenced = .ok ⟨"depot/south/", .configuredPath⟩ ∧
      resolvedIn ["depot/north"] pinned = .ok ⟨"/yard/south", .regionFullPath⟩ ∧
      ∀ d, Located setting.surroundings withCache (Regions.ofPaths ["depot/north"]) d
        (opened [] ["depot/north"]).world := by
  refine ⟨spells_iff.mpr rfl, rfl, rfl, rfl, ?_⟩
  exact (keepsMemory setting).located (w := (opened [] ["depot/north"]).world) rfl rfl

end Trial
end GatedStartup
