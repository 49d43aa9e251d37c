import GatedStartup.Proofs.DeclarationReading
import GatedStartup.Security.TypeName

/-! Which references there are, and how a document spells them. Whatever it is made from, a reference
is unset, or its name begins and ends with text; and each of these can be made. A document spells the
unset reference in several ways, and a name with any white space around it. -/
namespace GatedStartup

namespace Text

variable {s t : String}

/-- The text begins and ends with a character that is no white space. -/
structure Firm (s : String) : Prop where
  begins : ∃ c, s.toList.head? = some c ∧ isBlankChar c = false
  ends : ∃ c, s.toList.getLast? = some c ∧ isBlankChar c = false

theorem firm_of_single {c : Char} (single : s.toList = [c]) (text : isBlankChar c = false) :
    Firm s where
  begins := ⟨c, by rw [single]; rfl, text⟩
  ends := ⟨c, by rw [single]; rfl, text⟩

theorem Firm.between (first : Firm s) (last : Firm t) (middle : String) :
    Firm (s ++ middle ++ t) where
  begins := by
    obtain ⟨c, found, text⟩ := first.begins
    exact ⟨c, by simp [found], text⟩
  ends := by
    obtain ⟨c, found, text⟩ := last.ends
    exact ⟨c, by simp [found], text⟩

theorem getLast?_trimChars {cs : List Char} {c : Char} (last : (trimChars cs).getLast? = some c) :
    isBlankChar c = false := by
  have some_ : trimChars cs ≠ [] := by
    intro none
    simp [none] at last
  rw [List.getLast?_eq_some_getLast some_] at last
  obtain rfl := Option.some.inj last
  exact Bool.eq_false_iff.mpr (List.rdropWhile_last_not isBlankChar (cs.dropWhile isBlankChar) some_)

theorem firm_iff : Firm s ↔ isBlank s = false ∧ trim s = s := by
  constructor
  · rintro ⟨⟨c, first, text⟩, d, last, text'⟩
    obtain ⟨rest, begun⟩ := List.head?_eq_some_iff.mp first
    obtain ⟨front, ended⟩ := List.getLast?_eq_some_iff.mp last
    have kept : s.toList.dropWhile isBlankChar = s.toList := by
      rw [begun, List.dropWhile_cons_of_neg (by simp [text])]
    have whole : trimChars s.toList = s.toList := by
      rw [trimChars_eq, kept, ended, List.rdropWhile_concat_neg _ _ _ (by simp [text'])]
    exact ⟨by simp [isBlank, begun, text], by rw [trim, whole, String.ofList_toList]⟩
  · rintro ⟨text, whole⟩
    have kept : trimChars s.toList = s.toList := by
      simpa [trim] using congrArg String.toList whole
    have some_ : s.toList ≠ [] := by
      intro none
      simp [isBlank, none] at text
    have first := List.head?_eq_some_head some_
    have last := List.getLast?_eq_some_getLast some_
    exact ⟨⟨_, first, head?_trimChars (by rw [kept, first])⟩,
      ⟨_, last, getLast?_trimChars (by rw [kept, last])⟩⟩

end Text

theorem Word.firm (w : Word) : Text.Firm w.text := by
  have some_ : w.text.toList ≠ [] := by simpa using w.written
  have solid : ∀ c ∈ w.text.toList, Text.isBlankChar c = false := by simpa using w.solid
  exact ⟨⟨_, List.head?_eq_some_head some_, solid _ (List.head_mem some_)⟩,
    ⟨_, List.getLast?_eq_some_getLast some_, solid _ (List.getLast_mem some_)⟩⟩

namespace TypeName

open Text

/-- Whatever is written inside, a name begins and ends with a word, a bracket or a quote. -/
theorem firm_text : ∀ type : TypeName, Firm type.text
  | .word w => w.firm
  | .character _ | .angled _ | .slice _ | .array _ _ | .tuple _ =>
    (firm_of_single rfl rfl).between (firm_of_single rfl rfl) _
  | .applied head _ | .taking head _ => (firm_text head).between (firm_of_single rfl rfl) _
  | .member owner part => (firm_text owner).between (firm_text part) _
  | .joined first _ second => (firm_text first).between (firm_text second) _
  | .marked mark _ rest => mark.firm.between (firm_text rest) _

end TypeName

namespace ClassName

variable {c : ClassName} {v : Json.Value}

/-- The ways to a reference. -/
inductive Made : ClassName → Prop
  | ofOption (given : Option String) : Made (.ofOption given)
  | ofName (name : String) : Made (.ofName name)
  | ofType (type : TypeName) : Made (.ofType type)
  | read {v : Json.Value} {c : ClassName} (found : read v = .ok c) : Made c

theorem tidy_iff : c.Tidy ↔ c = .unset ∨ ∃ name, c = .named name ∧ Text.Firm name := by
  cases c with
  | unset => simp [tidy_unset]
  | named name => simp [Tidy, name?, Text.firm_iff]

/-- The name of a reference makes it again, unless white space is lost. -/
theorem ofOption_name?_eq_self : ofOption c.name? = c ↔ c.Tidy := by
  constructor
  · intro same
    exact same ▸ tidy_ofOption c.name?
  · intro tidy
    cases c with
    | unset => rfl
    | named name =>
      have trimmed : Text.trimmed? name = some name := Text.trimmed?_eq_some.mpr (tidy name rfl)
      simp [ofOption, name?, trimmed]

theorem made_iff_tidy : c.Made ↔ c.Tidy := by
  constructor
  · rintro (given | name | type | found)
    · exact tidy_ofOption given
    · exact tidy_ofOption (some name)
    · exact tidy_iff.mpr (.inr ⟨_, rfl, type.firm_text⟩)
    · exact tidy_read found
  · intro tidy
    exact ofOption_name?_eq_self.mpr tidy ▸ .ofOption c.name?

theorem read_write (c : ClassName) : read c.write = .ok (ofOption c.name?) := by
  cases c <;> rfl

/-- What is written is read back, if it is a reference that can be made. -/
theorem read_write_eq_self : read c.write = .ok c ↔ c.Made := by
  rw [read_write, Except.ok.injEq, ofOption_name?_eq_self, made_iff_tidy]

/-- What stands for a reference where a document may have a member for it. -/
inductive Spelled : Option Json.Value → ClassName → Prop
  | absent : Spelled none .unset
  | null : Spelled (some .null) .unset
  | blank {s : String} (blank : Text.isBlank s = true) : Spelled (some (.text s)) .unset
  | padded {front name back : String} (before : Text.isBlank front = true)
      (firm : Text.Firm name) (after : Text.isBlank back = true) :
      Spelled (some (.text (front ++ (name ++ back)))) (.named name)

theorem spelled_none : Spelled none c ↔ c = .unset := by
  constructor
  · rintro ⟨⟩
    rfl
  · rintro rfl
    exact .absent

theorem spelled_text (s : String) : Spelled (some (.text s)) (ofName s) := by
  cases trimmed : Text.trimmed? s with
  | none =>
    have blank : Text.isBlank s = true := by simpa [Text.trimmed?] using trimmed
    simpa [ofName, ofOption, trimmed] using Spelled.blank blank
  | some name =>
    obtain ⟨front, back, before, after, whole⟩ := Text.exists_trim s
    have firm := Text.firm_iff.mpr (Text.trimmed?_eq_some.mp (Text.trimmed?_trimmed? trimmed))
    rw [Text.trim_eq_of_trimmed? trimmed] at whole
    simpa [ofName, ofOption, trimmed, ← whole] using Spelled.padded before firm after

theorem read_eq_ok :
    read v = .ok c ↔ v = .null ∧ c = .unset ∨ ∃ s, v = .text s ∧ c = ofName s := by
  constructor
  · intro found
    obtain ⟨given, optional, rfl⟩ := Results.map_eq_ok.mp found
    clear found
    unfold Json.readOptional at optional
    split at optional
    · obtain rfl := Except.ok.inj optional
      exact .inl ⟨rfl, rfl⟩
    · obtain ⟨s, text, rfl⟩ := Results.map_eq_ok.mp optional
      exact .inr ⟨s, Json.readString_eq_ok.mp text, rfl⟩
  · rintro (⟨rfl, rfl⟩ | ⟨s, rfl, rfl⟩) <;> rfl

/-- A member is read as the reference that it spells. -/
theorem spelled_some : Spelled (some v) c ↔ read v = .ok c := by
  rw [read_eq_ok]
  constructor
  · rintro (_ | _ | blank | ⟨before, firm, after⟩)
    · exact .inl ⟨rfl, rfl⟩
    · refine .inr ⟨_, rfl, ?_⟩
      simp [ofName, ofOption, Text.trimmed?, blank]
    · refine .inr ⟨_, rfl, ?_⟩
      have trimmed := Text.trimmed?_eq_some.mpr (Text.firm_iff.mp firm)
      simp [ofName, ofOption, Text.trimmed?_between before after, trimmed]
  · rintro (⟨rfl, rfl⟩ | ⟨s, rfl, rfl⟩)
    · exact .null
    · exact spelled_text s

end ClassName
end GatedStartup
