import GatedStartup.Text.Blank

/-! Property sets. Keys keep the place of their first writing; writing a known key replaces its
value there. Removing a key forgets its place. -/
namespace GatedStartup

structure PropertySet where
  entries : List (String × String)
  distinct : (entries.map (·.1)).Nodup
deriving DecidableEq

namespace PropertySet

def empty : PropertySet := ⟨[], List.nodup_nil⟩

instance : Inhabited PropertySet := ⟨empty⟩

def keys (p : PropertySet) : List String := p.entries.map (·.1)

def size (p : PropertySet) : Nat := p.entries.length

def isEmpty (p : PropertySet) : Bool := p.entries.isEmpty

def get? (p : PropertySet) (key : String) : Option String := p.entries.lookup key

def contains (p : PropertySet) (key : String) : Bool := p.keys.contains key

/-- Replaces the value of `key` in place, or adds the pair at the end. -/
def setEntry (key value : String) : List (String × String) → List (String × String)
  | [] => [(key, value)]
  | entry :: rest => if entry.1 = key then (key, value) :: rest else entry :: setEntry key value rest

theorem keys_setEntry (key value : String) (entries : List (String × String)) :
    (setEntry key value entries).map (·.1) =
      if key ∈ entries.map (·.1) then entries.map (·.1) else entries.map (·.1) ++ [key] := by
  induction entries with
  | nil => simp [setEntry]
  | cons entry rest ih =>
    by_cases same : entry.1 = key
    · simp [setEntry, same]
    · have other : ¬ key = entry.1 := fun h => same h.symm
      simp only [setEntry, if_neg same, List.map_cons, ih, List.mem_cons, other, false_or]
      split <;> rfl

theorem distinct_setEntry {entries : List (String × String)} (key value : String)
    (distinct : (entries.map (·.1)).Nodup) : ((setEntry key value entries).map (·.1)).Nodup := by
  rw [keys_setEntry]
  split
  · exact distinct
  · next absent =>
    rw [List.nodup_append]
    refine ⟨distinct, by simp, ?_⟩
    intro a inside b last
    rw [List.mem_singleton.mp last]
    intro equal
    exact absent (equal ▸ inside)

def set (p : PropertySet) (key value : String) : PropertySet :=
  ⟨setEntry key value p.entries, distinct_setEntry key value p.distinct⟩

/-- Writes only a value that has text. -/
def setIfPresent (p : PropertySet) (key value : String) : PropertySet :=
  if Text.isBlank value then p else p.set key value

/-- Writes only a value that is there. -/
def setIfSome (p : PropertySet) (key : String) : Option String → PropertySet
  | none => p
  | some value => p.set key value

def erase (p : PropertySet) (key : String) : PropertySet :=
  ⟨p.entries.filter fun entry => entry.1 != key,
    (List.filter_sublist.map (fun entry : String × String => entry.1)).nodup p.distinct⟩

/-- Writes the pairs one after another. -/
def ofList (pairs : List (String × String)) : PropertySet :=
  pairs.foldl (fun p pair => p.set pair.1 pair.2) empty

/-- Same keys with same values, in whatever order. -/
def agrees (p q : PropertySet) : Bool :=
  p.size == q.size && p.entries.all fun entry => q.get? entry.1 == some entry.2

theorem lookup_setEntry (key value k : String) (entries : List (String × String)) :
    (setEntry key value entries).lookup k =
      if k = key then some value else entries.lookup k := by
  induction entries with
  | nil =>
    by_cases same : k = key
    · simp [setEntry, same]
    · simp [setEntry, same, List.lookup_cons, beq_false_of_ne same]
  | cons entry rest ih =>
    obtain ⟨other, old⟩ := entry
    by_cases same : other = key
    · subst same
      by_cases asked : k = other
      · simp [setEntry, asked]
      · simp [setEntry, asked, List.lookup_cons, beq_false_of_ne asked]
    · by_cases asked : k = other
      · subst asked
        simp [setEntry, same]
      · simp [setEntry, same, List.lookup_cons, beq_false_of_ne asked, ih]

/-- Writing changes the answer for its key only. -/
@[simp] theorem get?_set (p : PropertySet) (key value k : String) :
    (p.set key value).get? k = if k = key then some value else p.get? k :=
  lookup_setEntry key value k p.entries

/-- Removing changes the answer for its key only. -/
@[simp] theorem get?_erase (p : PropertySet) (key k : String) :
    (p.erase key).get? k = if k = key then none else p.get? k := by
  change (p.entries.filter fun entry => entry.1 != key).lookup k =
    if k = key then none else p.entries.lookup k
  induction p.entries with
  | nil => simp
  | cons entry rest ih =>
    obtain ⟨other, value⟩ := entry
    by_cases same : other = key
    · subst same
      by_cases asked : k = other
      · simpa [asked] using ih
      · simpa [asked, List.lookup_cons, beq_false_of_ne asked] using ih
    · by_cases asked : k = other
      · subst asked
        simp [same]
      · simp [same, List.lookup_cons, beq_false_of_ne asked, ih]

end PropertySet
end GatedStartup
