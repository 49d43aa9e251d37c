import GatedStartup.Proofs.RegionPaths

/-! The regions of a cache after any paths were created there. A region is known by the call that
made it, so that one that is found again can be told from one that is made anew. The definitions
that create such regions are those of the program, with a number for each region that is made.
Without the numbers they do the same to any table, which is `regions_create`. -/
namespace GatedStartup
namespace Engine

open Index Text

/-- A region with the number of the call that made it. -/
structure Instance where
  call : Nat
  region : Region
deriving DecidableEq

abbrev Instances := Table String Instance

/-- The region whose path this is. -/
def ownRegion (key : String) : Region := ⟨(segments key).getLastD "", key⟩

/-- What is left of a path without the slashes it begins with. -/
def unrooted (path : String) : String := .ofList (path.toList.dropWhile (· == '/'))

/-- The regions at the prefixes of the segments, below `parent`. -/
def lineage (parent : String) : List String → List Region
  | [] => []
  | segment :: rest =>
    let path := parent ++ "/" ++ segment
    ⟨segment, path⟩ :: lineage path rest

section

variable {parent path p q key : String} {found : List String} {region : Region}

theorem Segment.ne_nil {s : String} (segment : Segment s) : s.toList ≠ [] := by
  intro empty
  obtain rfl : s = "" := String.toList_inj.mp empty
  exact absurd segment.text (by decide)

theorem canonical?_isSome : (∃ c, canonical? path = some c) ↔
    ∃ c ∈ path.toList, c ≠ '/' ∧ isBlankChar c = false := by
  rw [← Option.isSome_iff_exists, Option.isSome_iff_ne_none, ne_eq, canonical?_eq_none,
    segments_eq_nil]
  simp

/-- A canonical path is spelled as it is. -/
theorem canonical?_canonical? {c : String} (spelled : canonical? path = some c) :
    canonical? c = some c :=
  canonical?_of_mem_ancestry (mem_ancestry_self spelled)

theorem segments_canonical {c : String} (spelled : canonical? path = some c) :
    segments c = segments path := by
  obtain ⟨-, rfl⟩ := canonical?_eq_some.mp spelled
  exact segments_joined fun s => segment_of_mem

theorem segments_congr (same : canonical? p = canonical? q) : segments p = segments q := by
  cases spelled : canonical? q with
  | none => rw [canonical?_eq_none.mp spelled, canonical?_eq_none.mp (same.trans spelled)]
  | some c => rw [← segments_canonical spelled, segments_canonical (same.trans spelled)]

theorem mem_lineage : region ∈ lineage parent found ↔
    ∃ front s, front ++ [s] <+: found ∧ region = ⟨s, parent ++ joined (front ++ [s])⟩ := by
  induction found generalizing parent with
  | nil => simp [lineage]
  | cons t rest ih =>
    rw [lineage, List.mem_cons, ih]
    constructor
    · rintro (rfl | ⟨front, s, first, rfl⟩)
      · exact ⟨[], t, by simp, by simp [String.append_assoc]⟩
      · exact ⟨t :: front, s, by simpa using first, by simp [String.append_assoc]⟩
    · rintro ⟨front, s, first, rfl⟩
      cases front with
      | nil =>
        obtain rfl : s = t := by simpa using first
        exact .inl (by simp [String.append_assoc])
      | cons t' front =>
        obtain ⟨rfl, later⟩ := List.cons_prefix_cons.mp first
        exact .inr ⟨front, s, later, by simp [String.append_assoc]⟩

theorem segments_of_mem_ancestry (member : p ∈ ancestry path) :
    segments p ≠ [] ∧ segments p <+: segments path ∧ p = joined (segments p) := by
  obtain ⟨front, nonempty, first, rfl⟩ := mem_ancestry.mp member
  rw [segments_joined fun s inside => segment_of_mem (first.subset inside)]
  exact ⟨nonempty, first, rfl⟩

theorem ancestry_trans (member : p ∈ ancestry q) (above : q ∈ ancestry path) :
    p ∈ ancestry path := by
  obtain ⟨nonempty, first, whole⟩ := segments_of_mem_ancestry member
  obtain ⟨-, later, -⟩ := segments_of_mem_ancestry above
  exact mem_ancestry.mpr ⟨segments p, nonempty, first.trans later, whole⟩

theorem mem_ancestry_canonical {c : String} (spelled : canonical? q = some c) :
    c ∈ ancestry path ↔ ∃ c', canonical? path = some c' ∧ segments c <+: segments c' := by
  constructor
  · intro above
    obtain ⟨nonempty, first, -⟩ := segments_of_mem_ancestry above
    have some_ : segments path ≠ [] := fun none => nonempty (List.prefix_nil.mp (none ▸ first))
    have known : canonical? path = some (joined (segments path)) :=
      canonical?_eq_some.mpr ⟨some_, rfl⟩
    exact ⟨_, known, by rwa [segments_canonical known]⟩
  · rintro ⟨c', known, first⟩
    obtain ⟨nonempty, whole⟩ := canonical?_eq_some.mp (canonical?_canonical? spelled)
    rw [segments_canonical known] at first
    exact mem_ancestry.mpr ⟨segments c, nonempty, first, whole.symm⟩

theorem getLast?_of_mem_ancestry (member : p ∈ ancestry path) : p.toList.getLast? ≠ some '/' := by
  obtain ⟨front, nonempty, first, rfl⟩ := mem_ancestry.mp member
  obtain ⟨front, s, rfl⟩ := (List.eq_nil_or_concat' front).resolve_left nonempty
  have segment : Segment s := segment_of_mem (first.subset (by simp))
  intro slash
  rw [joined_append, joined_cons, joined_nil, String.append_empty, String.toList_append,
    String.toList_append, List.getLast?_append_of_ne_nil _ (by simp),
    List.getLast?_append_of_ne_nil _ segment.ne_nil] at slash
  exact segment.whole (List.mem_of_getLast? slash)

/-- The regions that a path comes by have their own paths and names. -/
theorem mem_lineage_segments : region ∈ lineage "" (segments path) ↔
    region.fullPath ∈ ancestry path ∧ region = ownRegion region.fullPath := by
  rw [mem_lineage]
  constructor
  · rintro ⟨front, s, first, rfl⟩
    have all : ∀ t ∈ front ++ [s], Segment t :=
      fun t inside => segment_of_mem (first.subset inside)
    refine ⟨mem_ancestry.mpr ⟨front ++ [s], by simp, first, String.empty_append⟩, ?_⟩
    rw [ownRegion, String.empty_append, segments_joined all, List.getLastD_concat]
  · rintro ⟨member, own⟩
    obtain ⟨nonempty, first, whole⟩ := segments_of_mem_ancestry member
    obtain ⟨front, s, parts⟩ := (List.eq_nil_or_concat' _).resolve_left nonempty
    refine ⟨front, s, parts ▸ first, ?_⟩
    rw [String.empty_append, ← parts, ← whole, own, ownRegion, parts, List.getLastD_concat]

theorem find?_lineage : (lineage "" (segments path)).find? (·.fullPath == key) =
    if key ∈ ancestry path then some (ownRegion key) else none := by
  split
  · next above =>
    have there : ((lineage "" (segments path)).find? (·.fullPath == key)).isSome = true :=
      List.find?_isSome.mpr
        ⟨ownRegion key, mem_lineage_segments.mpr ⟨above, rfl⟩, by simp [ownRegion]⟩
    obtain ⟨region, first⟩ := Option.isSome_iff_exists.mp there
    obtain rfl : region.fullPath = key := by simpa using List.find?_some first
    rw [first, (mem_lineage_segments.mp (List.mem_of_find?_eq_some first)).2]
    rfl
  · next apart =>
    refine List.find?_eq_none.mpr fun region listed same => apart ?_
    obtain rfl : region.fullPath = key := by simpa using same
    exact (mem_lineage_segments.mp listed).1

/-- Taking a canonical path apart again gives the segments it was put together from. -/
theorem split_unrooted {canonical : String} (spelled : canonical? path = some canonical) :
    split '/' (unrooted canonical) = segments path := by
  obtain ⟨nonempty, rfl⟩ := canonical?_eq_some.mp spelled
  have all : ∀ s ∈ segments path, Segment s := fun s => segment_of_mem
  cases parts : segments path with
  | nil => contradiction
  | cons s rest =>
    rw [parts] at all
    obtain ⟨first, later⟩ := List.forall_mem_cons.mp all
    have stripped : unrooted (joined (s :: rest)) = s ++ joined rest := by
      obtain ⟨c, cs, chars⟩ := List.exists_cons_of_ne_nil first.ne_nil
      have text : (c == '/') = false := by
        have whole := first.whole
        rw [chars, List.mem_cons, not_or] at whole
        exact beq_false_of_ne (Ne.symm whole.1)
      simp [unrooted, chars, text, ← String.toList_inj]
    rw [stripped, split_append_joined s later, first.split_eq]
    rfl

end

namespace Instances

def regions (table : Instances) : Regions := ⟨table.entries.map fun e => (e.1, e.2.region)⟩

def intern (call : Nat) (table : Instances) (region : Region) : Instance × Instances :=
  match table.get? region.fullPath with
  | some known => (known, table)
  | none => (⟨call, region⟩, table.insert region.fullPath ⟨call, region⟩)

def createBelow (call : Nat) (parent : String) (deepest : Option Instance) (table : Instances) :
    List String → Option Instance × Instances
  | [] => (deepest, table)
  | segment :: rest =>
    let path := parent ++ "/" ++ segment
    let made := intern call table ⟨segment, path⟩
    createBelow call path (some made.1) made.2 rest

def create (call : Nat) (table : Instances) (path : String) : Option Instance × Instances :=
  createBelow call "" none table (segments path)

/-- The paths are created one after the other, by calls that are numbered from zero. -/
def ofPaths (paths : List String) : Instances :=
  paths.zipIdx.foldl (fun table p => (create p.2 table p.1).2) .empty

variable {call : Nat} {table : Instances} {paths : List String} {path parent key : String}
  {found : List String}

theorem get?_regions : table.regions.get? key = (table.get? key).map (·.region) :=
  Pairs.lookup_map ..

theorem regions_insert (i : Instance) :
    regions (table.insert key i) = table.regions.insert key i.region := by
  have maps (entries : List (String × Instance)) :
      (Table.insertEntry key i entries).map (fun e => (e.1, e.2.region)) =
        Table.insertEntry key i.region (entries.map fun e => (e.1, e.2.region)) := by
    induction entries with
    | nil => rfl
    | cons e rest ih =>
      simp only [Table.insertEntry, List.map_cons]
      split <;> simp [ih]
  exact congrArg Table.mk (maps table.entries)

theorem regions_intern (call : Nat) (region : Region) :
    table.regions.intern region =
      ((intern call table region).1.region, (intern call table region).2.regions) := by
  rw [Regions.intern, intern, get?_regions]
  cases table.get? region.fullPath with
  | some known => rfl
  | none => exact congrArg (Prod.mk region) (regions_insert ⟨call, region⟩).symm

theorem regions_createBelow (deepest : Option Instance) :
    table.regions.createBelow parent (deepest.map (·.region)) found =
      ((createBelow call parent deepest table found).1.map (·.region),
        (createBelow call parent deepest table found).2.regions) := by
  induction found generalizing parent deepest table with
  | nil => rfl
  | cons s rest ih =>
    simp only [Regions.createBelow, createBelow, regions_intern call]
    exact ih (some _)

/-- But for the numbers, creating is what the program does, whatever is in the table. -/
theorem regions_create (call : Nat) (table : Instances) (path : String) :
    table.regions.create path =
      ((create call table path).1.map (·.region), (create call table path).2.regions) :=
  regions_createBelow none

theorem ofPaths_concat (paths : List String) (path : String) :
    ofPaths (paths ++ [path]) = (create paths.length (ofPaths paths) path).2 := by
  rw [ofPaths, List.zipIdx_append, List.foldl_append]
  simp [ofPaths]

theorem regions_ofPaths (paths : List String) : (ofPaths paths).regions = .ofPaths paths := by
  induction paths using List.reverseRecOn with
  | nil => rfl
  | append_singleton paths path ih =>
    rw [Regions.ofPaths, List.foldl_concat, ← Regions.ofPaths, ← ih, ofPaths_concat,
      regions_create paths.length]

theorem get?_intern (region : Region) : (intern call table region).2.get? key =
    (table.get? key).or (if key = region.fullPath then some ⟨call, region⟩ else none) := by
  rw [intern]
  split
  · next known listed =>
    by_cases same : key = region.fullPath
    · simp [same, listed]
    · simp [same]
  · next absent =>
    by_cases same : key = region.fullPath
    · simp [same, absent]
    · simp [same]

theorem intern_self (region : Region) :
    (intern call table region).2.get? region.fullPath = some (intern call table region).1 := by
  rw [intern]
  split
  · next known listed => exact listed
  · simp

theorem get?_createBelow (deepest : Option Instance) :
    (createBelow call parent deepest table found).2.get? key = (table.get? key).or
      (((lineage parent found).find? (·.fullPath == key)).map (⟨call, ·⟩)) := by
  induction found generalizing parent deepest table with
  | nil => simp [createBelow, lineage]
  | cons s rest ih =>
    simp only [createBelow, lineage, ih, get?_intern, List.find?_cons, Option.or_assoc]
    congr 1
    by_cases same : key = parent ++ "/" ++ s
    · simp [same]
    · simp [same, beq_false_of_ne (Ne.symm same)]

/-- The last region is returned as it is kept. -/
theorem createBelow_fst (deepest : Option Instance) (nonempty : found ≠ []) :
    (createBelow call parent deepest table found).1 =
      (createBelow call parent deepest table found).2.get? (parent ++ joined found) := by
  induction found generalizing parent deepest table with
  | nil => contradiction
  | cons s rest ih =>
    have step : parent ++ joined (s :: rest) = parent ++ "/" ++ s ++ joined rest := by
      simp [String.append_assoc]
    rw [step, createBelow]
    by_cases last : rest = []
    · subst last
      simpa [createBelow] using (intern_self ⟨s, parent ++ "/" ++ s⟩).symm
    · exact ih _ last

/-- Creating a path adds the regions that are missing on the way, and changes no other. -/
theorem get?_create : (create call table path).2.get? key = (table.get? key).or
    (if key ∈ ancestry path then some ⟨call, ownRegion key⟩ else none) := by
  rw [create, get?_createBelow, find?_lineage]
  split <;> rfl

/-- A region is the one made by the first call that came by it. -/
theorem get?_ofPaths : (ofPaths paths).get? key =
    (paths.findIdx? (key ∈ ancestry ·)).map (⟨·, ownRegion key⟩) := by
  induction paths using List.reverseRecOn with
  | nil => rfl
  | append_singleton paths path ih =>
    rw [ofPaths_concat, get?_create, ih, List.findIdx?_append, Option.map_or]
    by_cases above : key ∈ ancestry path <;> simp [above]

end Instances

section

variable {paths : List String} {key : String}

theorem Regions.ordered_createBelow {regions : Regions} (ordered : regions.Ordered)
    (parent : String) (deepest : Option Region) (found : List String) :
    (createBelow parent deepest regions found).2.Ordered := by
  induction found generalizing parent deepest regions with
  | nil => exact ordered
  | cons s rest ih =>
    refine ih ?_ _ _
    rw [intern]
    split
    · exact ordered
    · exact Table.ordered_insert ordered _ _

theorem Regions.ordered_ofPaths (paths : List String) : (ofPaths paths).Ordered := by
  induction paths using List.reverseRecOn with
  | nil => exact List.Pairwise.nil
  | append_singleton paths path ih =>
    rw [ofPaths, List.foldl_concat]
    exact ordered_createBelow ih _ _ _

theorem Regions.contains_ofPaths :
    (ofPaths paths).contains key = true ↔ ∃ path ∈ paths, key ∈ ancestry path := by
  rw [Table.contains, ← Instances.regions_ofPaths, Instances.get?_regions, Instances.get?_ofPaths]
  simp

theorem Regions.get?_ofPaths_eq {region : Region}
    (listed : (ofPaths paths).get? key = some region) : region = ownRegion key := by
  rw [← Instances.regions_ofPaths, Instances.get?_regions, Instances.get?_ofPaths,
    Option.map_map] at listed
  obtain ⟨-, -, rfl⟩ := Option.map_eq_some_iff.mp listed
  rfl

/-- The regions once these paths have been created. -/
structure Regions.Charted (regions : Regions) (paths : List String) : Prop where
  canonical : ∀ key region, (key, region) ∈ regions.entries → ∃ front,
    (∀ s ∈ front ++ [region.name], Segment s) ∧ key = joined (front ++ [region.name]) ∧
      region.fullPath = key
  unslashed : ∀ key, regions.contains key = true → key.toList.getLast? ≠ some '/'
  parents : ∀ key, regions.contains key = true → ∀ p ∈ ancestry key, regions.contains p = true
  finds : ∀ q, (regions.find? q).isSome = true ↔ ∃ c, canonical? q = some c ∧
    ∃ path ∈ paths, ∃ c', canonical? path = some c' ∧ segments c <+: segments c'

theorem Regions.ofPaths_charted (paths : List String) : (ofPaths paths).Charted paths := by
  constructor
  case canonical =>
    intro key region listed
    have found := (Table.mem_entries_iff (ordered_ofPaths paths)).mp listed
    obtain ⟨path, -, above⟩ := contains_ofPaths.mp (Option.isSome_iff_exists.mpr ⟨region, found⟩)
    obtain ⟨nonempty, first, whole⟩ := segments_of_mem_ancestry above
    obtain ⟨front, s, parts⟩ := (List.eq_nil_or_concat' _).resolve_left nonempty
    have name : (ownRegion key).name = s := by rw [ownRegion, parts, List.getLastD_concat]
    refine ⟨front, ?_⟩
    rw [get?_ofPaths_eq found, name, ← parts]
    exact ⟨fun t inside => segment_of_mem inside, whole, rfl⟩
  case unslashed =>
    intro key there
    obtain ⟨path, -, above⟩ := contains_ofPaths.mp there
    exact getLast?_of_mem_ancestry above
  case parents =>
    intro key there p member
    obtain ⟨path, created, above⟩ := contains_ofPaths.mp there
    exact contains_ofPaths.mpr ⟨path, created, ancestry_trans member above⟩
  case finds =>
    intro q
    rw [find?, Option.isSome_bind, Option.any_eq_true]
    refine exists_congr fun c => and_congr_right fun spelled => contains_ofPaths.trans ?_
    exact exists_congr fun path => and_congr_right fun _ => mem_ancestry_canonical spelled

/-- A call for `path` that answers `made`. -/
structure Instances.Creates (call : Nat) (before : Instances) (path : String)
    (made : Option Instance) (after : Instances) : Prop where
  /-- The program does so. -/
  runs : before.regions.create path = (made.map (·.region), after.regions)
  none_iff : made = none ↔ ∀ c ∈ path.toList, c = '/' ∨ isBlankChar c = true
  unchanged : made = none → after = before
  returned : ∀ c, canonical? path = some c → made = after.get? c
  /-- What was there stays as it is, and is not made again. -/
  kept : ∀ key i, before.get? key = some i → after.get? key = some i
  added : ∀ key, before.get? key = none → ∀ i, after.get? key = some i ↔
    key ∈ ancestry path ∧ i = ⟨call, ownRegion key⟩
  /-- The canonical path would have been taken apart just so. -/
  reread : ∀ c, canonical? path = some c →
    before.regions.create path = before.regions.createBelow "" none (split '/' (unrooted c))

theorem Instances.create_creates (call : Nat) (table : Instances) (path : String) :
    Creates call table path (create call table path).1 (create call table path).2 := by
  have bare (none_ : segments path = []) : create call table path = (none, table) := by
    rw [create, none_]
    rfl
  have returned (c : String) (spelled : canonical? path = some c) :
      (create call table path).1 = (create call table path).2.get? c := by
    obtain ⟨nonempty, rfl⟩ := canonical?_eq_some.mp spelled
    have last : (create call table path).1 =
        (create call table path).2.get? ("" ++ joined (segments path)) :=
      createBelow_fst none nonempty
    rwa [String.empty_append] at last
  have none_iff : (create call table path).1 = none ↔ segments path = [] := by
    constructor
    · intro missing
      by_contra nonempty
      have spelled := canonical?_eq_some.mpr ⟨nonempty, rfl⟩
      rw [returned _ spelled, get?_create, if_pos (mem_ancestry_self spelled)] at missing
      simp at missing
    · intro none_
      rw [bare none_]
  constructor
  case runs => exact regions_create call table path
  case none_iff => rw [none_iff, segments_eq_nil]; simp
  case unchanged => intro missing; rw [bare (none_iff.mp missing)]
  case returned => exact returned
  case kept => intro key i there; rw [get?_create, there]; rfl
  case added =>
    intro key absent i
    rw [get?_create, absent, Option.none_or]
    by_cases above : key ∈ ancestry path <;> simp [above, eq_comm]
  case reread => intro c spelled; rw [split_unrooted spelled]; rfl

/-- Whatever paths were created, the regions are those at their prefixes, each made by the first call
that came by it. One more call keeps the regions as they are, whatever they are, and only the
canonical form of its path counts. -/
theorem Instances.region_history :
    (∀ paths, (Regions.ofPaths paths).Charted paths ∧ (ofPaths paths).regions = .ofPaths paths ∧
      ∀ key, (ofPaths paths).get? key =
        (paths.findIdx? (key ∈ ancestry ·)).map (⟨·, ownRegion key⟩)) ∧
      (∀ call table path,
        Creates call table path (create call table path).1 (create call table path).2) ∧
      (∀ path, (∃ c, canonical? path = some c) ↔
        ∃ c ∈ path.toList, c ≠ '/' ∧ isBlankChar c = false) ∧
      (∀ path c, canonical? path = some c → canonical? c = some c) ∧
      ∀ p q, canonical? p = canonical? q → ∀ regions : Regions,
        regions.create p = regions.create q ∧ regions.find? p = regions.find? q := by
  refine ⟨fun paths => ⟨Regions.ofPaths_charted paths, regions_ofPaths paths,
    fun key => get?_ofPaths⟩, create_creates, fun path => canonical?_isSome,
    fun path c => canonical?_canonical?, fun p q same regions => ⟨?_, ?_⟩⟩
  · rw [Regions.create, Regions.create, segments_congr same]
  · rw [Regions.find?, Regions.find?, same]

end
end Engine

namespace Trial

open Engine

def surveyed : List String := ["depot / north", " //depot ", " / "]

/-- The second call comes to the region that the first one made, and the third to none. -/
theorem surveyed_history :
    (Regions.ofPaths surveyed).paths = ["/depot", "/depot/north"] ∧
      (Instances.ofPaths surveyed).get? "/depot" = some ⟨0, ⟨"depot", "/depot"⟩⟩ ∧
      (Regions.ofPaths surveyed).Charted surveyed ∧
      (Instances.create 1 (.ofPaths ["depot / north"]) " //depot ").1 =
        some ⟨0, ⟨"depot", "/depot"⟩⟩ ∧
      (Regions.ofPaths surveyed).find? "depot" = (Regions.ofPaths surveyed).find? " //depot " := by
  obtain ⟨charted, creates, -, -, alike⟩ := Instances.region_history
  have second := creates 1 (.ofPaths ["depot / north"]) " //depot "
  exact ⟨rfl, rfl, (charted surveyed).1, second.returned "/depot" rfl,
    (alike "depot" " //depot " rfl _).2⟩

end Trial
end GatedStartup
