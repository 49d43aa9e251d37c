import Mathlib.Data.List.DropRight
import GatedStartup.Capability.Probe

/-! Trimming and splitting: trimming twice is trimming once, and what is put together with a
separator is found again by splitting at it. -/
namespace GatedStartup.Text

variable {separator : Char} {cs front rest : List Char}

theorem trimChars_eq (cs : List Char) :
    trimChars cs = (cs.dropWhile isBlankChar).rdropWhile isBlankChar := rfl

theorem trimChars_subset : trimChars cs ⊆ cs := fun _ member =>
  (List.dropWhile_suffix _).subset ((List.rdropWhile_prefix _ _).subset member)

/-- What is left begins with a character that is not white space. -/
theorem head?_trimChars {c : Char} (first : (trimChars cs).head? = some c) :
    isBlankChar c = false := by
  obtain ⟨tail, whole⟩ := List.rdropWhile_prefix isBlankChar (cs.dropWhile isBlankChar)
  have same : (cs.dropWhile isBlankChar).head? = some c := by
    rw [← whole, List.head?_append, ← trimChars_eq, first]
    rfl
  simpa [same] using List.head?_dropWhile_not isBlankChar cs

@[simp] theorem trimChars_trimChars : trimChars (trimChars cs) = trimChars cs := by
  have kept : (trimChars cs).dropWhile isBlankChar = trimChars cs := by
    cases trimmed : trimChars cs with
    | nil => rfl
    | cons c rest =>
      have first : (trimChars cs).head? = some c := by rw [trimmed]; rfl
      have text := head?_trimChars first
      exact List.dropWhile_cons_of_neg (by simp [text])
  rw [trimChars_eq (trimChars cs), kept, trimChars_eq cs]
  exact List.rdropWhile_idempotent ..

theorem trimChars_eq_nil_iff : trimChars cs = [] ↔ cs.all isBlankChar = true := by
  rw [trimChars_eq, List.rdropWhile_eq_nil_iff, List.all_eq_true]
  constructor
  · intro blank c member
    rw [← List.takeWhile_append_dropWhile (p := isBlankChar) (l := cs)] at member
    exact (List.mem_append.mp member).elim (fun early => List.mem_takeWhile_imp early) (blank c)
  · exact fun blank c member => blank c ((List.dropWhile_suffix _).subset member)

theorem isBlank_trim (s : String) : isBlank (trim s) = isBlank s := by
  rw [Bool.eq_iff_iff, isBlank, isBlank, ← trimChars_eq_nil_iff, ← trimChars_eq_nil_iff]
  simp [trim]

theorem trim_trim (s : String) : trim (trim s) = trim s := by simp [trim]

theorem trimmed?_trimmed? {s t : String} (trimmed : trimmed? s = some t) : trimmed? t = some t := by
  unfold trimmed? at trimmed ⊢
  split at trimmed
  · contradiction
  · next text =>
    obtain rfl := Option.some.inj trimmed
    rw [isBlank_trim, if_neg text, trim_trim]

theorem trim_eq_of_trimmed? {s t : String} (trimmed : trimmed? s = some t) : trim s = t := by
  unfold trimmed? at trimmed
  split at trimmed
  · contradiction
  · exact Option.some.inj trimmed

theorem trimmed?_eq_some {s t : String} :
    trimmed? s = some t ↔ isBlank t = false ∧ trim s = t := by
  constructor
  · intro trimmed
    have same := trim_eq_of_trimmed? trimmed
    refine ⟨?_, same⟩
    rw [trimmed?] at trimmed
    split at trimmed
    · contradiction
    · next text => rwa [← same, isBlank_trim, ← Bool.not_eq_true]
  · rintro ⟨text, rfl⟩
    rw [isBlank_trim] at text
    rw [trimmed?, text]
    rfl

theorem mem_of_trimmed? {s t : String} (trimmed : trimmed? s = some t) {c : Char}
    (member : c ∈ t.toList) : c ∈ s.toList := by
  obtain rfl := trim_eq_of_trimmed? trimmed
  exact trimChars_subset (by simpa [trim] using member)

/-- White space put around a text is trimmed with what was there. -/
theorem trimChars_between {back : List Char} (before : front.all isBlankChar = true)
    (after : back.all isBlankChar = true) : trimChars (front ++ (cs ++ back)) = trimChars cs := by
  have dropped (kept : List Char) :
      (kept ++ back).rdropWhile isBlankChar = kept.rdropWhile isBlankChar := by
    rw [List.rdropWhile, List.reverse_append, List.dropWhile_append_of_pos, List.rdropWhile]
    simpa using after
  rw [trimChars_eq, trimChars_eq, List.dropWhile_append_of_pos (List.all_eq_true.mp before),
    List.dropWhile_append]
  split
  · next blank =>
    rw [List.isEmpty_iff.mp blank, List.dropWhile_eq_nil_iff.mpr (List.all_eq_true.mp after)]
  · exact dropped _

theorem exists_trimChars (cs : List Char) : ∃ front back, front.all isBlankChar = true ∧
    back.all isBlankChar = true ∧ cs = front ++ (trimChars cs ++ back) := by
  refine ⟨cs.takeWhile isBlankChar, (cs.dropWhile isBlankChar).rtakeWhile isBlankChar, ?_, ?_, ?_⟩
  · exact List.all_eq_true.mpr fun _ => List.mem_takeWhile_imp
  · exact List.all_eq_true.mpr fun _ => List.mem_rtakeWhile_imp
  · rw [trimChars_eq, List.rdropWhile_append_rtakeWhile, List.takeWhile_append_dropWhile]

theorem trimmed?_between {front s back : String} (before : isBlank front = true)
    (after : isBlank back = true) : trimmed? (front ++ (s ++ back)) = trimmed? s := by
  have blank : isBlank (front ++ (s ++ back)) = isBlank s := by
    rw [isBlank] at before after
    simp [isBlank, before, after]
  have kept : trim (front ++ (s ++ back)) = trim s := by
    simp [trim, trimChars_between before after]
  rw [trimmed?, trimmed?, blank, kept]

theorem exists_trim (s : String) : ∃ front back, isBlank front = true ∧ isBlank back = true ∧
    s = front ++ (trim s ++ back) := by
  obtain ⟨front, back, before, after, whole⟩ := exists_trimChars s.toList
  refine ⟨.ofList front, .ofList back, ?_, ?_, ?_⟩
  · simpa [isBlank] using before
  · simpa [isBlank] using after
  · apply String.toList_inj.mp
    simpa [trim] using whole

theorem splitChars_cons_separator :
    splitChars separator (separator :: rest) = [] :: splitChars separator rest := by
  simp [splitChars]

theorem splitChars_append :
    splitChars separator (front ++ separator :: rest) =
      splitChars separator front ++ splitChars separator rest := by
  induction front with
  | nil => exact splitChars_cons_separator
  | cons c front ih =>
    by_cases cut : c = separator
    · subst cut
      rw [List.cons_append, splitChars_cons_separator, splitChars_cons_separator, ih,
        List.cons_append]
    · simp only [List.cons_append, splitChars, cut, if_false, ih]
      cases pieces : splitChars separator front with
      | nil => exact absurd pieces (splitChars_ne_nil separator front)
      | cons piece pieces => rfl

/-- Text without the separator is one piece. -/
theorem splitChars_of_not_mem (whole : separator ∉ cs) : splitChars separator cs = [cs] := by
  induction cs with
  | nil => rfl
  | cons c cs ih =>
    rw [List.mem_cons, not_or] at whole
    simp [splitChars, ih whole.2, Ne.symm whole.1]

theorem not_mem_splitChars {piece : List Char} (member : piece ∈ splitChars separator cs) :
    separator ∉ piece := by
  induction cs generalizing piece with
  | nil =>
    obtain rfl := List.mem_singleton.mp member
    exact List.not_mem_nil
  | cons c cs ih =>
    by_cases cut : c = separator
    · subst cut
      rw [splitChars_cons_separator] at member
      rcases List.mem_cons.mp member with rfl | later
      · exact List.not_mem_nil
      · exact ih later
    · simp only [splitChars, cut, if_false] at member
      cases pieces : splitChars separator cs with
      | nil => exact absurd pieces (splitChars_ne_nil separator cs)
      | cons first pieces =>
        rw [pieces] at member ih
        rcases List.mem_cons.mp member with rfl | later
        · rw [List.mem_cons, not_or]
          exact ⟨Ne.symm cut, ih List.mem_cons_self⟩
        · exact ih (List.mem_cons_of_mem _ later)

/-- All pieces are blank when there is nothing but separators and white space. -/
theorem all_blank_splitChars :
    (∀ piece ∈ splitChars separator cs, piece.all isBlankChar = true) ↔
      cs.all (fun c => c == separator || isBlankChar c) = true := by
  induction cs with
  | nil => simp [splitChars]
  | cons c cs ih =>
    by_cases cut : c = separator
    · subst cut
      rw [splitChars_cons_separator, List.forall_mem_cons, ih]
      simp
    · rw [List.all_cons, Bool.and_eq_true, ← ih]
      cases pieces : splitChars separator cs with
      | nil => exact absurd pieces (splitChars_ne_nil separator cs)
      | cons piece pieces =>
        have other : (c == separator) = false := by simpa using cut
        simp only [splitChars, cut, if_false, pieces, List.forall_mem_cons, List.all_cons,
          Bool.and_eq_true, other, Bool.false_or, and_assoc]

theorem split_append {a b mark : String} (single : mark.toList = [separator]) :
    split separator (a ++ mark ++ b) = split separator a ++ split separator b := by
  simp [split, single, splitChars_append]

end GatedStartup.Text
