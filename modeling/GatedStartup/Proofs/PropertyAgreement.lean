import GatedStartup.Proofs.Preliminaries
import GatedStartup.Property.Set
import Mathlib.Data.List.Perm.Subperm

/-! When property sets agree: they answer alike for every key, in whatever order their pairs
stand. -/
namespace GatedStartup.PropertySet

variable {p q : PropertySet} {key value : String}

theorem nodup_keys (p : PropertySet) : p.keys.Nodup :=
  p.distinct

theorem length_keys (p : PropertySet) : p.keys.length = p.size :=
  List.length_map ..

theorem get?_eq_none : p.get? key = none ↔ key ∉ p.keys :=
  Pairs.lookup_eq_none

theorem mem_keys : key ∈ p.keys ↔ ∃ value, p.get? key = some value := by
  rw [← not_iff_not, ← get?_eq_none, Option.eq_none_iff_forall_ne_some, not_exists]

theorem mem_entries : (key, value) ∈ p.entries ↔ p.get? key = some value :=
  Pairs.mem_iff_lookup p.distinct

theorem agrees_iff : p.agrees q = true ↔ ∀ key, p.get? key = q.get? key := by
  simp only [agrees, Bool.and_eq_true, beq_iff_eq, List.all_eq_true]
  constructor
  · rintro ⟨sizes, held⟩ key
    have held : ∀ key value, p.get? key = some value → q.get? key = some value :=
      fun key value found => held (key, value) (mem_entries.mpr found)
    have known : p.keys ⊆ q.keys := by
      intro key member
      obtain ⟨value, found⟩ := mem_keys.mp member
      exact mem_keys.mpr ⟨value, held key value found⟩
    have same : p.keys.Perm q.keys := by
      have lengths : q.keys.length = p.keys.length := by rw [length_keys, length_keys, sizes]
      exact (List.subperm_of_subset p.nodup_keys known).perm_of_length_le (Nat.le_of_eq lengths)
    cases found : p.get? key with
    | some value => exact (held key value found).symm
    | none =>
      have absent := get?_eq_none.mp found
      rw [same.mem_iff] at absent
      exact (get?_eq_none.mpr absent).symm
  · intro alike
    have same : p.keys.Perm q.keys := by
      rw [List.perm_ext_iff_of_nodup p.nodup_keys q.nodup_keys]
      intro key
      rw [mem_keys, mem_keys, alike]
    refine ⟨by rw [← length_keys, ← length_keys, same.length_eq], ?_⟩
    rintro ⟨key, value⟩ member
    rw [← alike]
    exact mem_entries.mp member

end GatedStartup.PropertySet
