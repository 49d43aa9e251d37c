import GatedStartup.Proofs.PropertyAgreement
import GatedStartup.Property.Edit
import Mathlib.Data.List.Induction

/-! What a property set holds after any edits. For each key the last edit that wrote it, if none has
removed it since, gives the value, and the first such edit gives the place. Edits that are to write
only a value with text, or only a class that is set, may do nothing. -/
namespace GatedStartup.PropertySet

namespace Edit

/-- The pair that the edit writes. Conditional edits may write none. -/
def written? (component : String) : Edit → Option (String × String)
  | .set key value => some (key, value)
  | .setIfPresent key value => if Text.isBlank value then none else some (key, value)
  | .setIfNamed key name => name.name?.map (key, ·)
  | .setComponent key => some (key, component)
  | .remove _ => none

variable {component : String} {p : PropertySet} {e : Edit} {key value : String}

def Writes (component : String) (e : Edit) (key : String) : Prop :=
  ∃ value, e.written? component = some (key, value)

/-- All that an edit can do. -/
theorem apply_cases (component : String) (p : PropertySet) (e : Edit) :
    (∃ key value, e.written? component = some (key, value) ∧ e.apply component p = p.set key value) ∨
    (∃ key, e = .remove key ∧ e.apply component p = p.erase key) ∨
    (e.written? component = none ∧ (∀ key, e ≠ .remove key) ∧ e.apply component p = p) := by
  cases e with
  | set key value => exact .inl ⟨key, value, rfl, rfl⟩
  | setComponent key => exact .inl ⟨key, component, rfl, rfl⟩
  | remove key => exact .inr (.inl ⟨key, rfl, rfl⟩)
  | setIfPresent key value =>
    cases blank : Text.isBlank value with
    | true => exact .inr (.inr (by simp [written?, apply, PropertySet.setIfPresent, blank]))
    | false => exact .inl ⟨key, value, by simp [written?, apply, PropertySet.setIfPresent, blank]⟩
  | setIfNamed key name =>
    cases name with
    | unset => exact .inr (.inr (by simp [written?, apply, setIfSome, ClassName.name?]))
    | named value => exact .inl ⟨key, value, rfl, rfl⟩

end Edit

variable {component : String} {past : List Edit} {e : Edit} {key value : String} {p q : PropertySet}

/-- The value is that of the last edit that wrote the key, and the key was not removed since. -/
def Latest (component : String) (past : List Edit) (key value : String) : Prop :=
  ∃ earlier e later, past = earlier ++ e :: later ∧ e.written? component = some (key, value) ∧
    ∀ e' ∈ later, ¬ e'.Writes component key ∧ e' ≠ .remove key

/-- The key was not written since it was last removed. -/
def Unwritten (component : String) (past : List Edit) (key : String) : Prop :=
  ∀ earlier later, past = earlier ++ later → .remove key ∉ later →
    ∀ e ∈ later, ¬ e.Writes component key

/-- After `before`, the key was written for the first time since it was last removed. -/
structure Enters (component : String) (past : List Edit) (key : String) (before : List Edit) :
    Prop where
  writes : ∃ e later, past = before ++ e :: later ∧ e.Writes component key ∧ .remove key ∉ later
  first : Unwritten component before key

/-- The one key was first written, since it was last removed, before the other was. -/
def Precedes (component : String) (past : List Edit) (key other : String) : Prop :=
  ∃ before before', Enters component past key before ∧ Enters component past other before' ∧
    before.length < before'.length

theorem latest_concat :
    Latest component (past ++ [e]) key value ↔ e.written? component = some (key, value) ∨
      (¬ e.Writes component key ∧ e ≠ .remove key) ∧ Latest component past key value := by
  constructor
  · rintro ⟨earlier, first, later, whole, writes, untouched⟩
    obtain rfl | ⟨later, last, rfl⟩ := later.eq_nil_or_concat'
    · obtain ⟨-, rfl⟩ := List.append_singleton_inj.mp whole
      exact .inl writes
    · rw [← List.cons_append, ← List.append_assoc] at whole
      obtain ⟨rfl, rfl⟩ := List.append_singleton_inj.mp whole
      exact .inr ⟨untouched e (by simp), earlier, first, later, rfl, writes,
        fun e' member => untouched e' (List.mem_append_left _ member)⟩
  · rintro (writes | ⟨untouched, earlier, first, later, rfl, writes, quiet⟩)
    · exact ⟨past, e, [], rfl, writes, by simp⟩
    · refine ⟨earlier, first, later ++ [e], by simp, writes, fun e' member => ?_⟩
      rcases List.mem_append.mp member with early | last
      · exact quiet e' early
      · exact List.mem_singleton.mp last ▸ untouched

theorem Unwritten.concat (unwritten : Unwritten component past key)
    (quiet : ¬ e.Writes component key) : Unwritten component (past ++ [e]) key := by
  intro earlier later whole kept e' member
  obtain rfl | ⟨later, last, rfl⟩ := later.eq_nil_or_concat'
  · nomatch member
  · rw [← List.append_assoc] at whole
    obtain ⟨rfl, rfl⟩ := List.append_singleton_inj.mp whole
    rcases List.mem_append.mp member with early | last
    · exact unwritten earlier later rfl (fun inside => kept (List.mem_append_left _ inside)) e' early
    · exact List.mem_singleton.mp last ▸ quiet

theorem unwritten_remove : Unwritten component (past ++ [.remove key]) key := by
  intro earlier later whole kept e' member
  obtain rfl | ⟨later, last, rfl⟩ := later.eq_nil_or_concat'
  · nomatch member
  · rw [← List.append_assoc] at whole
    obtain ⟨-, rfl⟩ := List.append_singleton_inj.mp whole
    exact absurd (List.mem_append_right _ (List.mem_singleton.mpr rfl)) kept

theorem Enters.concat {before : List Edit} (enters : Enters component past key before)
    (kept : e ≠ .remove key) : Enters component (past ++ [e]) key before := by
  obtain ⟨⟨first, later, rfl, writes, quiet⟩, fresh⟩ := enters
  refine ⟨⟨first, later ++ [e], by simp, writes, fun inside => ?_⟩, fresh⟩
  rcases List.mem_append.mp inside with early | last
  · exact quiet early
  · exact kept (List.mem_singleton.mp last).symm

theorem Enters.length_lt {before : List Edit} (enters : Enters component past key before) :
    before.length < past.length := by
  obtain ⟨⟨first, later, rfl, -, -⟩, -⟩ := enters
  simp

theorem Precedes.concat {other : String} (precedes : Precedes component past key other)
    (kept : e ≠ .remove key) (kept' : e ≠ .remove other) :
    Precedes component (past ++ [e]) key other := by
  obtain ⟨before, before', enters, enters', less⟩ := precedes
  exact ⟨before, before', enters.concat kept, enters'.concat kept', less⟩

/-- The set as the edits tell it. -/
structure Recounts (component : String) (past : List Edit) (p : PropertySet) : Prop where
  latest : ∀ key value, p.get? key = some value ↔ Latest component past key value
  absent : ∀ key, key ∉ p.keys → Unwritten component past key
  present : ∀ key ∈ p.keys, ∃ before, Enters component past key before
  ordered : p.keys.Pairwise (Precedes component past)

theorem keys_set (p : PropertySet) (key value : String) :
    (p.set key value).keys = if key ∈ p.keys then p.keys else p.keys ++ [key] :=
  keys_setEntry key value p.entries

theorem mem_keys_set (p : PropertySet) (key value other : String) :
    other ∈ (p.set key value).keys ↔ other = key ∨ other ∈ p.keys := by
  rw [keys_set]
  split
  · next known =>
    exact ⟨.inr, fun h => h.elim (fun same => same ▸ known) id⟩
  · rw [List.mem_append, List.mem_singleton, or_comm]

theorem keys_erase (p : PropertySet) (key : String) :
    (p.erase key).keys = p.keys.filter (· != key) := by
  rw [keys, keys, List.filter_map]
  rfl

namespace Recounts

theorem of_written (recounts : Recounts component past p)
    (writes : e.written? component = some (key, value)) :
    Recounts component (past ++ [e]) (p.set key value) := by
  have kept : ∀ other, e ≠ .remove other := by
    rintro other rfl
    nomatch writes
  have writes_iff : ∀ other, e.Writes component other ↔ other = key := fun other => by
    simp [Edit.Writes, writes, eq_comm]
  have enters_key : key ∉ p.keys → Enters component (past ++ [e]) key past := fun fresh =>
    ⟨⟨e, [], rfl, ⟨value, writes⟩, by simp⟩, recounts.absent key fresh⟩
  constructor
  case latest =>
    intro other found
    rw [get?_set, latest_concat, writes_iff, ← recounts.latest, writes]
    by_cases same : other = key
    · simp [same]
    · simp [same, Ne.symm same, kept]
  case absent =>
    intro other missing
    rw [mem_keys_set, not_or] at missing
    exact (recounts.absent other missing.2).concat ((writes_iff other).not.mpr missing.1)
  case present =>
    intro other member
    by_cases known : other ∈ p.keys
    · obtain ⟨before, enters⟩ := recounts.present other known
      exact ⟨before, enters.concat (kept other)⟩
    · obtain rfl := ((mem_keys_set p key value other).mp member).resolve_right known
      exact ⟨past, enters_key known⟩
  case ordered =>
    have before : p.keys.Pairwise (Precedes component (past ++ [e])) :=
      recounts.ordered.imp fun precedes => precedes.concat (kept _) (kept _)
    rw [keys_set]
    split
    · exact before
    · next fresh =>
      rw [List.pairwise_append]
      refine ⟨before, by simp, fun other member last lies => ?_⟩
      obtain rfl := List.mem_singleton.mp lies
      obtain ⟨start, enters⟩ := recounts.present other member
      exact ⟨start, past, enters.concat (kept other), enters_key fresh, enters.length_lt⟩

theorem of_removed (recounts : Recounts component past p) :
    Recounts component (past ++ [.remove key]) (p.erase key) := by
  have silent : ∀ other, ¬ (Edit.remove key).Writes component other := by
    rintro other ⟨value, writes⟩
    nomatch writes
  have kept : ∀ other ∈ (p.erase key).keys, other ∈ p.keys ∧ Edit.remove key ≠ .remove other := by
    intro other member
    rw [keys_erase, List.mem_filter, bne_iff_ne] at member
    exact ⟨member.1, fun same => member.2 (Edit.remove.inj same).symm⟩
  constructor
  case latest =>
    intro other found
    have removal : (Edit.remove key).written? component = none := rfl
    rw [get?_erase, latest_concat, ← recounts.latest, removal]
    by_cases same : other = key
    · simp [same]
    · simp [same, Ne.symm same, silent]
  case absent =>
    intro other missing
    by_cases same : other = key
    · exact same ▸ unwritten_remove
    · rw [keys_erase, List.mem_filter, bne_iff_ne] at missing
      exact (recounts.absent other fun member => missing ⟨member, same⟩).concat (silent other)
  case present =>
    intro other member
    obtain ⟨known, apart⟩ := kept other member
    obtain ⟨before, enters⟩ := recounts.present other known
    exact ⟨before, enters.concat apart⟩
  case ordered =>
    have fewer : (p.erase key).keys.Sublist p.keys := by
      rw [keys_erase]
      exact List.filter_sublist
    refine (recounts.ordered.sublist fewer).imp_of_mem fun first second precedes => ?_
    exact precedes.concat (kept _ first).2 (kept _ second).2

theorem of_idle (recounts : Recounts component past p) (quiet : e.written? component = none)
    (kept : ∀ key, e ≠ .remove key) : Recounts component (past ++ [e]) p := by
  have silent : ∀ key, ¬ e.Writes component key := by
    rintro key ⟨value, writes⟩
    rw [quiet] at writes
    nomatch writes
  constructor
  case latest =>
    intro key value
    rw [recounts.latest, latest_concat, quiet]
    simp [silent, kept]
  case absent => exact fun key missing => (recounts.absent key missing).concat (silent key)
  case present =>
    intro key member
    obtain ⟨before, enters⟩ := recounts.present key member
    exact ⟨before, enters.concat (kept key)⟩
  case ordered => exact recounts.ordered.imp fun precedes => precedes.concat (kept _) (kept _)

theorem concat (recounts : Recounts component past p) (e : Edit) :
    Recounts component (past ++ [e]) (e.apply component p) := by
  rcases e.apply_cases component p with
    ⟨key, value, writes, done⟩ | ⟨key, rfl, done⟩ | ⟨quiet, kept, done⟩
  · rw [done]
    exact recounts.of_written writes
  · exact recounts.of_removed
  · rw [done]
    exact recounts.of_idle quiet kept

end Recounts

theorem recounts_empty (component : String) : Recounts component [] empty where
  latest key value := by simp [Latest, get?, empty]
  absent key _ := by
    rintro _ later whole - e member
    rw [(List.nil_eq_append_iff.mp whole).2] at member
    nomatch member
  present key member := by nomatch member
  ordered := .nil

theorem applyAll_recounts (component : String) (edits : List Edit) :
    Recounts component edits (Edit.applyAll component edits empty) := by
  induction edits using List.reverseRecOn with
  | nil => exact recounts_empty component
  | append_singleton edits e recounts =>
    rw [Edit.applyAll, List.foldl_concat]
    exact recounts.concat e

/-- Pairs that a set is made of are written one after another. -/
def writing (pairs : List (String × String)) : List Edit :=
  pairs.map fun pair => .set pair.1 pair.2

theorem applyAll_ofList (component : String) (pairs : List (String × String)) (edits : List Edit) :
    Edit.applyAll component edits (ofList pairs) =
      Edit.applyAll component (writing pairs ++ edits) empty := by
  rw [Edit.applyAll, Edit.applyAll, List.foldl_append, writing, List.foldl_map]
  rfl

/-- What holds of a set that was made of pairs and then edited. -/
structure OrderedMap (component : String) (pairs : List (String × String)) (edits : List Edit)
    (p : PropertySet) : Prop where
  distinct : p.keys.Nodup
  latest : ∀ key value, p.get? key = some value ↔
    Latest component (writing pairs ++ edits) key value
  present : ∀ key ∈ p.keys, ∃ before, Enters component (writing pairs ++ edits) key before
  ordered : p.keys.Pairwise (Precedes component (writing pairs ++ edits))
  /-- A value without text is not written, even if the key has another. -/
  blank : ∀ key value, Text.isBlank value = true →
    (Edit.setIfPresent key value).apply component p = p
  unset : ∀ key, (Edit.setIfNamed key .unset).apply component p = p
  /-- The order of the pairs does not count. -/
  agrees : ∀ q, p.agrees q = true ↔ ∀ key, p.get? key = q.get? key

theorem edited_orderedMap (component : String) (pairs : List (String × String))
    (edits : List Edit) :
    OrderedMap component pairs edits (Edit.applyAll component edits (ofList pairs)) := by
  have recounts := applyAll_recounts component (writing pairs ++ edits)
  rw [← applyAll_ofList] at recounts
  constructor
  case distinct => exact nodup_keys _
  case latest => exact recounts.latest
  case present => exact recounts.present
  case ordered => exact recounts.ordered
  case blank => exact fun key value blank => if_pos blank
  case unset => exact fun key => rfl
  case agrees => exact fun q => agrees_iff

/-- A key that is written again keeps its place, unless it was removed in between. -/
example : (Edit.applyAll "shop" [.set "a" "3", .remove "b", .setIfPresent "a" " ", .setComponent "b"]
    (ofList [("a", "1"), ("b", "2"), ("c", "0")])).entries =
      [("a", "3"), ("c", "0"), ("b", "shop")] := by
  decide

end GatedStartup.PropertySet
