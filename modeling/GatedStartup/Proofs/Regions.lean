import GatedStartup.Engine.Regions
import GatedStartup.Proofs.Trimming
import Mathlib.Data.List.Infix

/-! Canonical paths, and the regions that are there once paths have been created. -/
namespace GatedStartup.Engine

open Text

/-- What a canonical path is made of: text without a slash or white space around it. -/
structure Segment (s : String) : Prop where
  text : trimmed? s = some s
  whole : '/' ∉ s.toList

theorem segment_of_mem {path s : String} (member : s ∈ segments path) : Segment s := by
  obtain ⟨piece, inside, trimmed⟩ := List.mem_filterMap.mp member
  obtain ⟨cs, cut, rfl⟩ := List.mem_map.mp inside
  refine ⟨trimmed?_trimmed? trimmed, fun slash => not_mem_splitChars cut ?_⟩
  simpa using mem_of_trimmed? trimmed slash

/-- A path without a segment is made of slashes and white space. -/
theorem segments_eq_nil {path : String} :
    segments path = [] ↔ path.toList.all (fun c => c == '/' || isBlankChar c) = true := by
  rw [← all_blank_splitChars]
  simp [segments, split, trimmed?, isBlank]

@[simp] theorem joined_nil : joined [] = "" := by simp [joined]

@[simp] theorem joined_cons (s : String) (rest : List String) :
    joined (s :: rest) = "/" ++ s ++ joined rest := by
  simp [joined]

@[simp] theorem joined_append (front rest : List String) :
    joined (front ++ rest) = joined front ++ joined rest := by
  simp [joined]

variable {found : List String}

theorem Segment.split_eq {s : String} (segment : Segment s) : split '/' s = [s] := by
  simp [split, splitChars_of_not_mem segment.whole]

theorem split_append_joined (start : String) (all : ∀ s ∈ found, Segment s) :
    split '/' (start ++ joined found) = split '/' start ++ found := by
  induction found generalizing start with
  | nil => simp
  | cons s rest ih =>
    obtain ⟨first, later⟩ := List.forall_mem_cons.mp all
    have cut : split '/' (start ++ "/" ++ s) = split '/' start ++ [s] := by
      rw [split_append (by simp), first.split_eq]
    rw [joined_cons, ← String.append_assoc, ← String.append_assoc, ih _ later, cut]
    simp

/-- The segments of a canonical path are those that it was joined from. -/
theorem segments_joined (all : ∀ s ∈ found, Segment s) : segments (joined found) = found := by
  have kept : found.filterMap trimmed? = found := by
    rw [List.filterMap_congr fun s member => (all s member).text, List.filterMap_some]
  have whole := split_append_joined "" all
  have blank : trimmed? "" = none := rfl
  rw [String.empty_append] at whole
  rw [segments, whole]
  simp [split, splitChars, blank, kept]

theorem canonical?_joined (all : ∀ s ∈ found, Segment s) (nonempty : found ≠ []) :
    canonical? (joined found) = some (joined found) := by
  rw [canonical?, segments_joined all]
  cases found with
  | nil => contradiction
  | cons s rest => rfl

theorem canonical?_eq_none {path : String} : canonical? path = none ↔ segments path = [] := by
  unfold canonical?
  split <;> simp_all

theorem canonical?_eq_some {path canonical : String} :
    canonical? path = some canonical ↔ segments path ≠ [] ∧ joined (segments path) = canonical := by
  unfold canonical?
  split <;> simp_all

/-- The paths of a region and of all above it. -/
def ancestry (path : String) : List String :=
  ((segments path).inits.filter (!·.isEmpty)).map joined

theorem mem_ancestry {path p : String} :
    p ∈ ancestry path ↔ ∃ front, front ≠ [] ∧ front <+: segments path ∧ p = joined front := by
  simp only [ancestry, List.mem_map, List.mem_filter, List.mem_inits]
  constructor
  · rintro ⟨front, ⟨first, nonempty⟩, rfl⟩
    exact ⟨front, by simpa using nonempty, first, rfl⟩
  · rintro ⟨front, nonempty, first, rfl⟩
    exact ⟨front, ⟨first, by simpa using nonempty⟩, rfl⟩

namespace Regions

variable {regions : Regions}

/-- Each region is kept under its own path, which is canonical. -/
def Canonical (regions : Regions) : Prop :=
  ∀ path region, regions.get? path = some region →
    region.fullPath = path ∧ canonical? path = some path

theorem contains_intern {path : String} {region : Index.Region} :
    (regions.intern region).2.contains path = true ↔
      regions.contains path = true ∨ path = region.fullPath := by
  unfold intern
  split
  · next known listed =>
    constructor
    · exact .inl
    · rintro (there | rfl)
      · exact there
      · simp [Table.contains, listed]
  · next absent =>
    by_cases same : path = region.fullPath
    · simp [Table.contains, same]
    · simp [Table.contains, same]

theorem Canonical.intern (canonical : Canonical regions) (region : Index.Region)
    (own : canonical? region.fullPath = some region.fullPath) :
    Canonical (regions.intern region).2 := by
  unfold Regions.intern
  split
  · exact canonical
  · intro path found listed
    rw [Table.get?_insert] at listed
    split at listed
    · next same =>
      cases listed
      exact ⟨same.symm, same ▸ own⟩
    · exact canonical path found listed

theorem createBelow_spec (front found : List String) (deepest : Option Index.Region)
    (all : ∀ s ∈ front ++ found, Segment s) (canonical : Canonical regions) :
    Canonical (createBelow (joined front) deepest regions found).2 ∧
      ∀ path, (createBelow (joined front) deepest regions found).2.contains path = true ↔
        regions.contains path = true ∨
          ∃ below, below ≠ [] ∧ below <+: found ∧ path = joined (front ++ below) := by
  induction found generalizing front deepest regions with
  | nil => simpa [createBelow] using canonical
  | cons s rest ih =>
    have step : joined front ++ "/" ++ s = joined (front ++ [s]) := by simp [String.append_assoc]
    have all' : ∀ t ∈ (front ++ [s]) ++ rest, Segment t := by simpa using all
    have own : canonical? (joined (front ++ [s])) = some (joined (front ++ [s])) :=
      canonical?_joined (fun t member => all' t (List.mem_append_left _ member)) (by simp)
    simp only [createBelow, step]
    obtain ⟨still, contains⟩ := ih (front ++ [s])
      (some (regions.intern ⟨s, joined (front ++ [s])⟩).1) all'
      (canonical.intern ⟨s, joined (front ++ [s])⟩ own)
    refine ⟨still, fun path => ?_⟩
    rw [contains, contains_intern, or_assoc]
    refine or_congr_right ⟨?_, ?_⟩
    · rintro (rfl | ⟨below, nonempty, first, rfl⟩)
      · exact ⟨[s], by simp, by simp, rfl⟩
      · exact ⟨s :: below, by simp, by simpa using first, by simp⟩
    · rintro ⟨below, nonempty, first, rfl⟩
      cases below with
      | nil => contradiction
      | cons t below =>
        obtain ⟨rfl, later⟩ := List.cons_prefix_cons.mp first
        by_cases last : below = []
        · exact .inl (by simp [last])
        · exact .inr ⟨below, last, later, by simp⟩

/-- Creating a path adds the region there and those above it, and no other. -/
theorem create_spec (canonical : Canonical regions) (path : String) :
    Canonical (regions.create path).2 ∧ ∀ p, (regions.create path).2.contains p = true ↔
      regions.contains p = true ∨ p ∈ ancestry path := by
  obtain ⟨still, contains⟩ := createBelow_spec [] (segments path) none
    (fun s member => segment_of_mem (by simpa using member)) canonical
  rw [joined_nil] at still contains
  exact ⟨still, fun p => (contains p).trans (or_congr_right mem_ancestry.symm)⟩

/-- A path under which a region is kept finds it. -/
theorem Canonical.isSome_find? (canonical : Canonical regions) {path : String}
    (there : regions.contains path = true) : (regions.find? path).isSome = true := by
  obtain ⟨region, listed⟩ := Option.isSome_iff_exists.mp there
  simp [find?, (canonical path region listed).2, listed]

theorem canonical_empty : Canonical (.empty : Regions) := by simp [Canonical]

end Regions

/-- The path that a canonical path is for is among those that creating it adds. -/
theorem mem_ancestry_self {path canonical : String} (found : canonical? path = some canonical) :
    canonical ∈ ancestry path := by
  obtain ⟨nonempty, rfl⟩ := canonical?_eq_some.mp found
  exact mem_ancestry.mpr ⟨segments path, nonempty, List.prefix_rfl, rfl⟩

theorem canonical?_of_mem_ancestry {path p : String} (member : p ∈ ancestry path) :
    canonical? p = some p := by
  obtain ⟨front, nonempty, first, rfl⟩ := mem_ancestry.mp member
  exact canonical?_joined (fun s inside => segment_of_mem (first.subset inside)) nonempty

end GatedStartup.Engine
