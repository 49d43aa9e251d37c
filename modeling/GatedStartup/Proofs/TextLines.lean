import GatedStartup.Proofs.ReadBack
import GatedStartup.Proofs.Trimming
import Mathlib.Data.List.Forall2

/-! What a line of a properties text shows. The separator is the first equals sign that no
backslash escapes, so a line shows one pair at most, and since no line end is left in a line, the
text shows the pairs of the set and no others. -/
namespace GatedStartup.PropertySet

open PropertiesReader

variable {line front back key value : List Char}

/-- The first equals sign before which the backslashes are paired. -/
structure Separated (line front back : List Char) : Prop where
  whole : line = front ++ '=' :: back
  paired : backslashes front % 2 = 0
  first : ∀ early late, front = early ++ '=' :: late → backslashes early % 2 = 1

/-- An equals sign in a key has its own backslash. -/
theorem continues_of_separator (key : List Char) {early late : List Char}
    (split : escape true key = early ++ '=' :: late) : continues early = true := by
  induction key generalizing early with
  | nil => simp at split
  | cons c key ih =>
    rcases written true c with ⟨e, shape, -, -, -, -⟩ | ⟨shape, letter, -, apart⟩
    · rw [shape] at split
      rcases early with _ | ⟨a, _ | ⟨b, early⟩⟩
      · nomatch (List.cons.inj split).1
      · obtain ⟨rfl, -⟩ := List.cons.inj split
        decide
      · obtain ⟨rfl, tail⟩ := List.cons.inj split
        obtain ⟨-, later⟩ := List.cons.inj tail
        rw [continues_escape]
        exact ih later
    · rw [shape] at split
      rcases early with _ | ⟨a, early⟩
      · exact absurd (List.cons.inj split).1 (apart rfl).1
      · obtain ⟨rfl, later⟩ := List.cons.inj split
        rw [continues_cons letter.1]
        exact ih later

theorem separated_body (key value : List Char) :
    Separated (body key value) (escape true key) (escape false value) where
  whole := rfl
  paired := by
    have ends := @continues_escape_append true key []
    rw [List.append_nil] at ends
    have none : continues [] = false := rfl
    simpa [continues] using ends.trans none
  first early late split := by
    simpa [continues] using continues_of_separator key split

theorem Separated.unique {front' back' : List Char} (a : Separated line front back)
    (b : Separated line front' back') : front = front' ∧ back = back' := by
  have whole := a.whole.symm.trans b.whole
  rcases List.append_eq_append_iff.mp whole with ⟨between, rfl, rest⟩ | ⟨between, rfl, rest⟩
  · rcases between with _ | ⟨c, between⟩
    · exact ⟨(List.append_nil _).symm, (List.cons.inj rest).2⟩
    · obtain ⟨rfl, -⟩ := List.cons.inj rest
      have early := b.first front between rfl
      have paired := a.paired
      omega
  · rcases between with _ | ⟨c, between⟩
    · exact ⟨List.append_nil _, (List.cons.inj rest).2.symm⟩
    · obtain ⟨rfl, -⟩ := List.cons.inj rest
      have early := a.first front' between rfl
      have paired := b.paired
      omega

/-- What stands on the two sides of the separator is the pair, once the escapes are undone. -/
def Shows (line : List Char) (entry : String × String) : Prop :=
  ∃ front back, Separated line front back ∧ decode front = some entry.1.toList ∧
    decode back = some entry.2.toList

theorem shows_body (entry : String × String) :
    Shows (body entry.1.toList entry.2.toList) entry :=
  ⟨_, _, separated_body _ _, decode_escape true _, decode_escape false _⟩

/-- A line shows one pair at most. -/
theorem rightUnique_shows : Relator.RightUnique Shows := by
  rintro line entry other ⟨front, back, separated, key, value⟩
    ⟨front', back', separated', key', value'⟩
  obtain ⟨rfl, rfl⟩ := separated.unique separated'
  have keys := Option.some.inj (key.symm.trans key')
  have values := Option.some.inj (value.symm.trans value')
  exact Prod.ext (String.toList_inj.mp keys) (String.toList_inj.mp values)

theorem splitChars_flatMap (entries : List (String × String)) :
    Text.splitChars '\n' (entries.flatMap PropertySet.line) =
      entries.map (fun entry => body entry.1.toList entry.2.toList) ++ [[]] := by
  induction entries with
  | nil => rfl
  | cons entry entries ih =>
    have unbroken : '\n' ∉ body entry.1.toList entry.2.toList := by
      intro inside
      exact (body_unbroken _ _ _ inside).1 rfl
    rw [List.flatMap_cons, line_eq, List.append_assoc, List.singleton_append,
      Text.splitChars_append, Text.splitChars_of_not_mem unbroken, ih]
    rfl

/-- Nothing of a set is lost in its text. -/
structure Lossless (p : PropertySet) : Prop where
  /-- Cut at its line feeds, the text has a line for each pair that shows it, and nothing after the
  last of them. -/
  lines : ∃ lines, Text.splitChars '\n' p.text.toList = lines ++ [[]] ∧
    List.Forall₂ Shows lines p.entries
  /-- No line shows another pair. -/
  unique : ∀ line entry other, Shows line entry → Shows line other → entry = other
  injective : ∀ q : PropertySet, q.text = p.text ↔ q.entries = p.entries

theorem shown (p : PropertySet) : ∃ lines, Text.splitChars '\n' p.text.toList = lines ++ [[]] ∧
    List.Forall₂ Shows lines p.entries := by
  refine ⟨p.entries.map fun entry => body entry.1.toList entry.2.toList, ?_, ?_⟩
  · rw [text, String.toList_ofList, splitChars_flatMap]
  · rw [List.forall₂_map_left_iff, List.forall₂_same]
    exact fun entry _ => shows_body entry

theorem text_lossless (p : PropertySet) : Lossless p where
  lines := shown p
  unique _ _ _ shows other := rightUnique_shows shows other
  injective q := by
    constructor
    · intro same
      obtain ⟨lines, cut, shows⟩ := shown p
      obtain ⟨others, cut', shows'⟩ := shown q
      rw [same, cut] at cut'
      obtain rfl := List.append_cancel_right cut'
      exact rightUnique_shows.forall₂ shows' shows
    · intro same
      rw [text, text, same]

/-- A key that ends in a backslash, a value that begins with an equals sign, a pair of nothing. -/
example : (ofList [("a\\", "=b"), ("", "")]).text = "a\\\\==b\n=\n" := by decide

end GatedStartup.PropertySet
