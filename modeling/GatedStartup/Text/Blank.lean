/-! White space by the Unicode property `White_Space`, and the trimming built on it.
A text is blank when nothing is left of it after trimming. -/
namespace GatedStartup.Text

/-- Ranges of code points with the property `White_Space`, ends included. -/
def blankRanges : List (Nat × Nat) :=
  [(0x09, 0x0D), (0x20, 0x20), (0x85, 0x85), (0xA0, 0xA0), (0x1680, 0x1680), (0x2000, 0x200A),
   (0x2028, 0x2029), (0x202F, 0x202F), (0x205F, 0x205F), (0x3000, 0x3000)]

def isBlankChar (c : Char) : Bool :=
  blankRanges.any fun range => range.1 ≤ c.toNat && c.toNat ≤ range.2

/-- Drops white space at both ends. -/
def trimChars (cs : List Char) : List Char :=
  ((cs.dropWhile isBlankChar).reverse.dropWhile isBlankChar).reverse

def trim (s : String) : String := String.ofList (trimChars s.toList)

def isBlank (s : String) : Bool := s.toList.all isBlankChar

/-- The trimmed text, unless the text is blank. -/
def trimmed? (s : String) : Option String := if isBlank s then none else some (trim s)

/-- Cuts at every occurrence of `separator`; one piece more than there are separators. -/
def splitChars (separator : Char) : List Char → List (List Char)
  | [] => [[]]
  | c :: rest =>
    if c = separator then [] :: splitChars separator rest
    else match splitChars separator rest with
      | [] => [[c]]
      | piece :: pieces => (c :: piece) :: pieces

def split (separator : Char) (s : String) : List String :=
  (splitChars separator s.toList).map String.ofList

theorem splitChars_ne_nil (separator : Char) (cs : List Char) : splitChars separator cs ≠ [] := by
  cases cs with
  | nil => simp [splitChars]
  | cons c rest => simp only [splitChars]; split <;> (try split) <;> simp

/-- Nothing but the separators is lost. -/
theorem intercalate_splitChars (separator : Char) (cs : List Char) :
    [separator].intercalate (splitChars separator cs) = cs := by
  induction cs with
  | nil => rfl
  | cons c rest ih =>
    have nonempty := splitChars_ne_nil separator rest
    simp only [splitChars]
    split
    · next h =>
      subst h
      match hs : splitChars c rest with
      | [] => exact absurd hs nonempty
      | piece :: pieces => rw [hs] at ih; simp [List.intercalate_cons_cons, ih]
    · match hs : splitChars separator rest with
      | [] => exact absurd hs nonempty
      | [piece] => rw [hs] at ih; simpa using ih
      | piece :: next :: pieces =>
        rw [hs] at ih
        simpa [List.intercalate_cons_cons] using ih

end GatedStartup.Text
