import Mathlib.Data.List.Forall2
import Mathlib.Data.List.Nodup

/-! Facts about results, lists, and lists of pairs that are looked up by their first parts. They are
about no program in particular. -/
namespace GatedStartup

namespace Results

variable {α β ε : Type} {result : Except ε α}

theorem map_eq_ok {change : α → β} {y : β} :
    result.map change = .ok y ↔ ∃ x, result = .ok x ∧ change x = y := by
  cases result <;> simp [Except.map]

theorem fails_iff : (∃ error, result = .error error) ↔ ¬∃ x, result = .ok x := by
  cases result <;> simp

/-- Nothing changes by a second step that keeps what the first one gave. -/
theorem bind_eq_self {next : α → Except ε α} (kept : ∀ x, result = .ok x → next x = .ok x) :
    result.bind next = result := by
  cases result with
  | error error => rfl
  | ok x => exact kept x rfl

end Results

namespace Lists

section

variable {α β ε : Type} {f g : α → Except ε β} {l : List α}

theorem mapM_congr (same : ∀ a ∈ l, f a = g a) : l.mapM f = l.mapM g := by
  induction l with
  | nil => rfl
  | cons a rest ih =>
    obtain ⟨first, later⟩ := List.forall_mem_cons.mp same
    rw [List.mapM_cons, List.mapM_cons, first, ih later]

theorem mapM_eq_error {error : ε} (fails : l.mapM f = .error error) :
    ∃ a ∈ l, f a = .error error := by
  induction l with
  | nil => contradiction
  | cons a rest ih =>
    rw [List.mapM_cons] at fails
    cases first : f a with
    | error other =>
      obtain rfl : other = error := by simpa [first, bind, Except.bind] using fails
      exact ⟨a, List.mem_cons_self, first⟩
    | ok b =>
      cases later : rest.mapM f with
      | error other =>
        obtain rfl : other = error := by simpa [first, later, bind, Except.bind] using fails
        obtain ⟨a', member, failed⟩ := ih later
        exact ⟨a', List.mem_cons_of_mem _ member, failed⟩
      | ok bs => simp [first, later, bind, Except.bind, pure, Except.pure] at fails

theorem mapM_cons_eq_ok {a : α} {bs : List β} (all : (a :: l).mapM f = .ok bs) :
    ∃ b bs', f a = .ok b ∧ l.mapM f = .ok bs' ∧ bs = b :: bs' := by
  rw [List.mapM_cons] at all
  cases first : f a with
  | error error => simp [first, bind, Except.bind] at all
  | ok b =>
    cases later : l.mapM f with
    | error error => simp [first, later, bind, Except.bind] at all
    | ok bs' =>
      refine ⟨b, bs', rfl, rfl, ?_⟩
      simpa [first, later, bind, Except.bind, pure, Except.pure, eq_comm] using all

end

section

variable {α β : Type} {R : α → α → Prop} {f : α → β} {xs ys : List α}

/-- What stands in two lists put together stands in the second or in the first. -/
theorem append_eq_append_cons {front rest : List α} {a : α} (whole : xs ++ ys = front ++ a :: rest) :
    (∃ between, front = xs ++ between ∧ ys = between ++ a :: rest) ∨
      ∃ after, xs = front ++ a :: after ∧ rest = after ++ ys := by
  obtain ⟨between, same, later⟩ | ⟨between, rfl, later⟩ := List.append_eq_append_iff.mp whole
  · exact .inl ⟨between, same, later⟩
  · cases between with
    | nil => exact .inl ⟨[], by simp, later.symm⟩
    | cons first after =>
      obtain ⟨rfl, same⟩ := List.cons.inj later
      exact .inr ⟨after, rfl, same⟩

theorem append_eq_append_cons_of_not_mem {front rest : List α} {a : α} (absent : a ∉ xs)
    (whole : xs ++ ys = front ++ a :: rest) :
    ∃ between, front = xs ++ between ∧ ys = between ++ a :: rest :=
  (append_eq_append_cons whole).resolve_right fun ⟨_, same, _⟩ => absent (by simp [same])

/-- What stands in a list with one more is the last, or was there before. -/
theorem concat_eq_append_cons {front rest : List α} {a b : α}
    (whole : xs ++ [b] = front ++ a :: rest) :
    (front = xs ∧ a = b) ∨ ∃ after, xs = front ++ a :: after := by
  rcases append_eq_append_cons whole with ⟨between, rfl, last⟩ | ⟨after, before, -⟩
  · obtain ⟨rfl, rfl, -⟩ := by simpa [List.singleton_eq_append_iff] using last
    exact .inl ⟨List.append_nil xs, rfl⟩
  · exact .inr ⟨after, before⟩

theorem forall₂_getElem? (alike : List.Forall₂ R xs ys) (n : Nat) : Option.Rel R xs[n]? ys[n]? := by
  induction alike generalizing n with
  | nil => exact .none
  | cons same _ ih =>
    cases n with
    | zero => exact .some same
    | succ n => exact ih n

theorem forall₂_set {x y : α} (alike : List.Forall₂ R xs ys) (n : Nat) (same : R x y) :
    List.Forall₂ R (xs.set n x) (ys.set n y) := by
  induction alike generalizing n with
  | nil => exact .nil
  | cons first rest ih =>
    cases n with
    | zero => exact .cons same rest
    | succ n => exact .cons first (ih n)

theorem map_eq_of_forall₂ (alike : List.Forall₂ R xs ys) (same : ∀ x y, R x y → f x = f y) :
    xs.map f = ys.map f := by
  induction alike with
  | nil => rfl
  | cons first _ ih => rw [List.map_cons, List.map_cons, same _ _ first, ih]

end

/-- In a list that changes at every step one value occurs as often as the other, or once more. -/
theorem count_of_isChain {before : Bool} {steps : List Bool}
    (chain : (before :: steps).IsChain (· ≠ ·)) :
    steps.count true + before.toNat = steps.count false + (steps.getLastD before).toNat := by
  induction steps generalizing before with
  | nil => rfl
  | cons step steps ih =>
    obtain ⟨differs, later⟩ := List.isChain_cons_cons.mp chain
    have counted := ih later
    rw [List.getLastD_cons]
    cases before <;> cases step <;> simp_all
    omega

end Lists

namespace Pairs

variable {κ α β : Type} [BEq κ] {pairs : List (κ × α)} {key : κ} {value : α}

theorem lookup_map (f : α → β) (pairs : List (κ × α)) (key : κ) :
    (pairs.map fun pair => (pair.1, f pair.2)).lookup key = (pairs.lookup key).map f := by
  induction pairs with
  | nil => rfl
  | cons pair rest ih =>
    obtain ⟨other, value⟩ := pair
    simp only [List.map_cons, List.lookup_cons, ih]
    cases key == other <;> rfl

variable [LawfulBEq κ]

theorem lookup_eq_none : pairs.lookup key = none ↔ key ∉ pairs.map (·.1) := by
  rw [List.lookup_eq_none_iff, List.mem_map]
  constructor
  · rintro other ⟨entry, inside, rfl⟩
    simpa using other entry inside
  · intro missing entry inside
    exact bne_iff_ne.mpr fun same => missing ⟨entry, inside, same.symm⟩

theorem mem_of_lookup (found : pairs.lookup key = some value) : (key, value) ∈ pairs := by
  obtain ⟨before, after, rfl, -⟩ := List.lookup_eq_some_iff.mp found
  simp

/-- When no key is repeated, the pairs are what is found under their keys. -/
theorem mem_iff_lookup (distinct : (pairs.map (·.1)).Nodup) :
    (key, value) ∈ pairs ↔ pairs.lookup key = some value := by
  induction pairs with
  | nil => simp
  | cons entry rest ih =>
    obtain ⟨other, old⟩ := entry
    rw [List.map_cons, List.nodup_cons] at distinct
    by_cases same : key = other
    · subst same
      have once : (key, value) ∉ rest := fun inside =>
        distinct.1 (List.mem_map.mpr ⟨_, inside, rfl⟩)
      simp [once, eq_comm]
    · simp [List.lookup_cons, beq_false_of_ne same, same, ih distinct.2]

theorem lookup_filter (keep : κ → Bool) (kept : keep key = true) (pairs : List (κ × α)) :
    (pairs.filter fun pair => keep pair.1).lookup key = pairs.lookup key := by
  induction pairs with
  | nil => rfl
  | cons entry rest ih =>
    obtain ⟨name, value⟩ := entry
    rw [List.filter_cons, List.lookup_cons]
    split
    · rw [List.lookup_cons, ih]
    · next dropped =>
      have other : key ≠ name := by
        rintro rfl
        exact dropped kept
      rw [beq_false_of_ne other, ih]

end Pairs
end GatedStartup
