/-! Tables in key order. A new key goes to its place among the keys, a known one has its
value replaced. -/
namespace GatedStartup

structure Table (κ α : Type) where
  entries : List (κ × α)
deriving DecidableEq, Repr

namespace Table

variable {κ α : Type}

def empty : Table κ α := ⟨[]⟩

instance : Inhabited (Table κ α) := ⟨empty⟩

def isEmpty (t : Table κ α) : Bool := t.entries.isEmpty

def size (t : Table κ α) : Nat := t.entries.length

def keys (t : Table κ α) : List κ := t.entries.map (·.1)

def values (t : Table κ α) : List α := t.entries.map (·.2)

def get? [BEq κ] (t : Table κ α) (key : κ) : Option α := t.entries.lookup key

def contains [BEq κ] (t : Table κ α) (key : κ) : Bool := (t.get? key).isSome

def insertEntry [Ord κ] (key : κ) (value : α) : List (κ × α) → List (κ × α)
  | [] => [(key, value)]
  | entry :: rest =>
    match compare key entry.1 with
    | .lt => (key, value) :: entry :: rest
    | .eq => (key, value) :: rest
    | .gt => entry :: insertEntry key value rest

def insert [Ord κ] (t : Table κ α) (key : κ) (value : α) : Table κ α :=
  ⟨insertEntry key value t.entries⟩

def erase [BEq κ] (t : Table κ α) (key : κ) : Table κ α :=
  ⟨t.entries.filter fun entry => !(entry.1 == key)⟩

/-- Later pairs win over earlier ones with the same key. -/
def ofList [Ord κ] (pairs : List (κ × α)) : Table κ α :=
  pairs.foldl (fun t pair => t.insert pair.1 pair.2) empty

/-- Every key is smaller than all keys after it, so none is repeated. -/
def Ordered [Ord κ] (t : Table κ α) : Prop :=
  t.entries.Pairwise fun a b => compare a.1 b.1 = .lt

@[simp] theorem get?_empty [BEq κ] (key : κ) : (empty : Table κ α).get? key = none := rfl

open Std

section Laws

variable [Ord κ] [LawfulEqOrd κ]

theorem ne_of_lt {a b : κ} (less : compare a b = .lt) : a ≠ b := by
  rintro rfl
  simp [ReflOrd.compare_self] at less

theorem mem_keys_insertEntry (key : κ) (value : α) (k : κ) (entries : List (κ × α)) :
    k ∈ (insertEntry key value entries).map (·.1) ↔ k = key ∨ k ∈ entries.map (·.1) := by
  induction entries with
  | nil => simp [insertEntry]
  | cons entry rest ih =>
    simp only [insertEntry]
    split
    · simp
    · next same => simp [LawfulEqOrd.eq_of_compare same]
    · simp only [List.map_cons, List.mem_cons, ih]
      constructor
      · rintro (h | h | h) <;> simp [h]
      · rintro (h | h | h) <;> simp [h]

theorem pairwise_insertEntry [TransOrd κ] (key : κ) (value : α) {entries : List (κ × α)}
    (ordered : entries.Pairwise fun a b => compare a.1 b.1 = .lt) :
    (insertEntry key value entries).Pairwise fun a b => compare a.1 b.1 = .lt := by
  induction entries with
  | nil => simp [insertEntry]
  | cons entry rest ih =>
    obtain ⟨above, below⟩ := List.pairwise_cons.mp ordered
    simp only [insertEntry]
    split
    · next first =>
      refine List.pairwise_cons.mpr ⟨fun other inside => ?_, ordered⟩
      cases List.mem_cons.mp inside with
      | inl h => exact h ▸ first
      | inr h => exact TransCmp.lt_trans first (above other h)
    · next same =>
      have equal := LawfulEqOrd.eq_of_compare same
      exact List.pairwise_cons.mpr ⟨fun other inside => equal ▸ above other inside, below⟩
    · next later =>
      refine List.pairwise_cons.mpr ⟨fun other inside => ?_, ih below⟩
      have member : other.1 ∈ (insertEntry key value rest).map (·.1) :=
        List.mem_map_of_mem inside
      cases (mem_keys_insertEntry key value other.1 rest).mp member with
      | inl h => exact h ▸ OrientedCmp.lt_of_gt later
      | inr h =>
        obtain ⟨known, place, equal⟩ := List.mem_map.mp h
        exact equal ▸ above known place

theorem ordered_insert [TransOrd κ] {t : Table κ α} (ordered : t.Ordered) (key : κ) (value : α) :
    (t.insert key value).Ordered :=
  pairwise_insertEntry key value ordered

theorem ordered_ofList [TransOrd κ] (pairs : List (κ × α)) : (ofList pairs).Ordered := by
  have grows (pairs : List (κ × α)) (t : Table κ α) (ordered : t.Ordered) :
      (pairs.foldl (fun t pair => t.insert pair.1 pair.2) t).Ordered := by
    induction pairs generalizing t with
    | nil => exact ordered
    | cons pair rest ih => exact ih _ (ordered_insert ordered pair.1 pair.2)
  exact grows pairs empty List.Pairwise.nil

theorem lookup_insertEntry [DecidableEq κ] (key : κ) (value : α) (k : κ)
    (entries : List (κ × α)) :
    (insertEntry key value entries).lookup k =
      if k = key then some value else entries.lookup k := by
  induction entries with
  | nil =>
    by_cases asked : k = key
    · simp [insertEntry, asked]
    · simp [insertEntry, asked, List.lookup_cons, beq_false_of_ne asked]
  | cons entry rest ih =>
    obtain ⟨other, old⟩ := entry
    simp only [insertEntry]
    split
    · by_cases asked : k = key
      · simp [asked]
      · simp [asked, List.lookup_cons, beq_false_of_ne asked]
    · next same =>
      have equal : key = other := LawfulEqOrd.eq_of_compare same
      subst equal
      by_cases asked : k = key
      · simp [asked]
      · simp [asked, List.lookup_cons, beq_false_of_ne asked]
    · next later =>
      by_cases known : k = other
      · subst known
        have different : k ≠ key := by
          rintro rfl
          simp [ReflOrd.compare_self] at later
        simp [different]
      · simp [List.lookup_cons, beq_false_of_ne known, ih]

/-- Inserting changes the answer for its key only. -/
@[simp] theorem get?_insert [DecidableEq κ] (t : Table κ α) (key : κ) (value : α) (k : κ) :
    (t.insert key value).get? k = if k = key then some value else t.get? k :=
  lookup_insertEntry key value k t.entries

end Laws

theorem ordered_erase [Ord κ] [BEq κ] {t : Table κ α} (ordered : t.Ordered) (key : κ) :
    (t.erase key).Ordered :=
  List.Pairwise.sublist List.filter_sublist ordered

/-- Erasing changes the answer for its key only. -/
@[simp] theorem get?_erase [DecidableEq κ] (t : Table κ α) (key k : κ) :
    (t.erase key).get? k = if k = key then none else t.get? k := by
  change (t.entries.filter fun entry => !(entry.1 == key)).lookup k =
    if k = key then none else t.entries.lookup k
  induction t.entries with
  | nil => simp
  | cons entry rest ih =>
    obtain ⟨other, value⟩ := entry
    by_cases same : other = key
    · subst same
      by_cases asked : k = other
      · simpa [asked] using ih
      · simpa [asked, List.lookup_cons, beq_false_of_ne asked] using ih
    · by_cases asked : k = other
      · subst asked
        simp [same]
      · simp [same, List.lookup_cons, beq_false_of_ne asked, ih]

section Members

variable [Ord κ] [LawfulEqOrd κ] [DecidableEq κ] {t : Table κ α} {key : κ} {value : α}

theorem size_insert (absent : t.get? key = none) (value : α) :
    (t.insert key value).size = t.size + 1 := by
  have grows (entries : List (κ × α)) (absent : entries.lookup key = none) :
      (insertEntry key value entries).length = entries.length + 1 := by
    induction entries with
    | nil => rfl
    | cons entry rest ih =>
      obtain ⟨other, old⟩ := entry
      have different : key ≠ other := by
        rintro rfl
        simp at absent
      rw [List.lookup_cons, beq_false_of_ne different] at absent
      simp only [insertEntry]
      split
      · rfl
      · next same => exact absurd (LawfulEqOrd.eq_of_compare same) different
      · simp [ih absent]
  exact grows t.entries absent

theorem mem_entries_iff (ordered : t.Ordered) :
    (key, value) ∈ t.entries ↔ t.get? key = some value := by
  have reads (entries : List (κ × α))
      (ordered : entries.Pairwise fun a b => compare a.1 b.1 = .lt) :
      (key, value) ∈ entries ↔ entries.lookup key = some value := by
    induction entries with
    | nil => simp
    | cons entry rest ih =>
      obtain ⟨other, old⟩ := entry
      obtain ⟨above, below⟩ := List.pairwise_cons.mp ordered
      by_cases same : key = other
      · subst same
        have once : (key, value) ∉ rest := fun inside => ne_of_lt (above _ inside) rfl
        simp [once, eq_comm]
      · simp [List.lookup_cons, beq_false_of_ne same, same, ih below]
  exact reads t.entries ordered

theorem size_erase (ordered : t.Ordered) (there : t.contains key = true) :
    (t.erase key).size + 1 = t.size := by
  have shrinks (entries : List (κ × α))
      (ordered : entries.Pairwise fun a b => compare a.1 b.1 = .lt)
      (there : (entries.lookup key).isSome) :
      (entries.filter fun entry => !(entry.1 == key)).length + 1 = entries.length := by
    induction entries with
    | nil => simp at there
    | cons entry rest ih =>
      obtain ⟨other, old⟩ := entry
      obtain ⟨above, below⟩ := List.pairwise_cons.mp ordered
      by_cases same : key = other
      · subst same
        have others : ∀ e ∈ rest, (!(e.1 == key)) = true := fun e inside => by
          simpa using (ne_of_lt (above e inside)).symm
        simp [List.filter_eq_self.mpr others]
      · rw [List.lookup_cons, beq_false_of_ne same] at there
        simpa [Ne.symm same] using ih below there
  exact shrinks t.entries ordered there

end Members

end Table
end GatedStartup
