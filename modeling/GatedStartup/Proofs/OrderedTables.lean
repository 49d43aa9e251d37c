import GatedStartup.Proofs.Preliminaries
import GatedStartup.Table
import Mathlib.Data.List.Induction
import Mathlib.Data.List.Perm.Basic

/-! What a table in key order is made of. It is known by what is found under its keys, and when no
key is repeated, that is what the pairs say that it was filled with. -/
namespace GatedStartup.Table

open Std

variable {κ α : Type} [Ord κ] {t u : Table κ α} {pairs : List (κ × α)} {key : κ}

theorem ofList_concat (pairs : List (κ × α)) (pair : κ × α) :
    ofList (pairs ++ [pair]) = (ofList pairs).insert pair.1 pair.2 := by
  simp [ofList]

variable [LawfulEqOrd κ]

theorem Ordered.nodup_entries (ordered : t.Ordered) : t.entries.Nodup :=
  List.Pairwise.imp (fun less same => ne_of_lt less (congrArg Prod.fst same)) ordered

variable [TransOrd κ] [DecidableEq κ]

/-- Tables in which the same is found are the same. -/
theorem Ordered.eq_of_get? (ordered : t.Ordered) (ordered' : u.Ordered)
    (same : ∀ key, t.get? key = u.get? key) : t = u := by
  have entries : t.entries.Perm u.entries := by
    rw [List.perm_ext_iff_of_nodup ordered.nodup_entries ordered'.nodup_entries]
    rintro ⟨key, value⟩
    rw [mem_entries_iff ordered, mem_entries_iff ordered', same]
  have equal : t.entries = u.entries := by
    apply entries.eq_of_pairwise _ ordered ordered'
    intro a b _ _ less greater
    have loops := TransCmp.lt_trans less greater
    simp [ReflOrd.compare_self] at loops
  cases t
  cases u
  exact congrArg mk equal

/-- When no key is repeated, what is found is what the pairs say. -/
theorem get?_ofList (distinct : (pairs.map (·.1)).Nodup) (key : κ) :
    (ofList pairs).get? key = pairs.lookup key := by
  induction pairs using List.reverseRecOn with
  | nil => rfl
  | append_singleton pairs pair ih =>
    obtain ⟨last, value⟩ := pair
    rw [List.map_append, List.nodup_append] at distinct
    rw [ofList_concat, get?_insert, ih distinct.1, List.lookup_append]
    by_cases same : key = last
    · subst same
      have absent : pairs.lookup key = none :=
        Pairs.lookup_eq_none.mpr fun inside => distinct.2.2 _ inside _ (by simp) rfl
      simp [absent]
    · simp [List.lookup_cons, beq_false_of_ne same, same]

end GatedStartup.Table
