import GatedStartup.Json.Token

/-! The reader of the properties format. Lines are put together from natural lines, blank lines and
comments are passed over, and each line that is left has a key and a value in which escapes are
decoded. -/
namespace GatedStartup.PropertiesReader

def formFeed : Char := '\x0c'

/-- White space of the format. -/
def isGap (c : Char) : Bool := c = ' ' || c = '\t' || c = formFeed

/-- The text between line ends: a carriage return, a line feed, or the one before the other. -/
def naturalLines : List Char → List (List Char)
  | [] => [[]]
  | '\r' :: '\n' :: rest => [] :: naturalLines rest
  | c :: rest =>
    if c = '\n' || c = '\r' then [] :: naturalLines rest
    else match naturalLines rest with
      | [] => [[c]]
      | line :: lines => (c :: line) :: lines

/-- The backslashes at the end of a line. -/
def backslashes (line : List Char) : Nat := (line.reverse.takeWhile (· = '\\')).length

/-- Two backslashes stand for one, a single one carries the line on. -/
def continues (line : List Char) : Bool := backslashes line % 2 = 1

def isComment (line : List Char) : Bool := line.head?.any fun c => c = '#' || c = '!'

/-- Puts lines and their continuations together, without the white space at their beginning.
`started` is a line that goes on. -/
def join (started : Option (List Char)) : List (List Char) → List (List Char)
  | [] => started.toList
  | line :: rest =>
    let line := line.dropWhile isGap
    if started.isNone && (line.isEmpty || isComment line) then join none rest
    else
      let whole := started.getD [] ++ line
      if continues line then join (some whole.dropLast) rest else whole :: join none rest

def logicalLines (cs : List Char) : List (List Char) :=
  (join none (naturalLines cs)).filter (!·.isEmpty)

/-- A key as it is written, and what follows it. -/
def splitKey : List Char → List Char × List Char
  | [] => ([], [])
  | ['\\'] => (['\\'], [])
  | '\\' :: c :: rest => (splitKey rest).map ('\\' :: c :: ·) id
  | c :: rest =>
    if c = '=' || c = ':' || isGap c then ([], c :: rest)
    else (splitKey rest).map (c :: ·) id

/-- The value as it is written, from what follows the key. -/
def afterKey (cs : List Char) : List Char :=
  match cs.dropWhile isGap with
  | [] => []
  | c :: rest => if c = '=' || c = ':' then rest.dropWhile isGap else c :: rest

def unescaped : Char → Char
  | 't' => '\t'
  | 'n' => '\n'
  | 'r' => '\r'
  | 'f' => formFeed
  | c => c

/-- Four hexadecimal digits. -/
def unit? (digits : List Char) : Option Nat :=
  digits.foldlM (fun value c => (Json.Lexer.hexDigit? c).map (16 * value + ·)) 0

/-- The numbers of characters, with those of surrogates that are escaped on their own. -/
def units : List Char → Option (List Nat)
  | [] => some []
  | ['\\'] => some []
  | '\\' :: 'u' :: a :: b :: c :: d :: rest => do
    let first ← unit? [a, b, c, d]
    let others ← units rest
    some (first :: others)
  | '\\' :: 'u' :: _ => none
  | '\\' :: c :: rest => (units rest).map ((unescaped c).toNat :: ·)
  | c :: rest => (units rest).map (c.toNat :: ·)

/-- Pairs of surrogates are one character. Half a pair is none. -/
def characters : List Nat → Option (List Char)
  | [] => some []
  | n :: rest =>
    if n < 0xD800 || 0xDFFF < n then (characters rest).map (Char.ofNat n :: ·)
    else match rest with
      | [] => none
      | low :: rest =>
        if n < 0xDC00 && 0xDC00 ≤ low && low ≤ 0xDFFF then
          (characters rest).map (Char.ofNat (0x10000 + (n - 0xD800) * 0x400 + (low - 0xDC00)) :: ·)
        else none

def decode (cs : List Char) : Option (List Char) := (units cs).bind characters

def pair (line : List Char) : Option (String × String) := do
  let parts := splitKey line
  let key ← decode parts.1
  let value ← decode (afterKey parts.2)
  some (String.ofList key, String.ofList value)

/-- The pairs of a text in order. Nothing when an escape stands for no character. -/
def read (text : String) : Option (List (String × String)) :=
  (logicalLines text.toList).mapM pair

example : read "# none\n\r\n  one : \\\n\t two\\\\\n\\#\\ \\u0041\\ud83d\\ude00" =
    some [("one", "two\\"), ("# A😀", "")] := by cbv

variable {c : Char} {cs line rest : List Char}

theorem naturalLines_append (unbroken : ∀ c ∈ line, c ≠ '\n' ∧ c ≠ '\r') :
    naturalLines (line ++ '\n' :: rest) = line :: naturalLines rest := by
  induction line with
  | nil => simp [naturalLines]
  | cons c line ih =>
    obtain ⟨first, later⟩ := List.forall_mem_cons.mp unbroken
    rw [List.cons_append, naturalLines]
    · simp [first.1, first.2, ih later]
    · rintro _ rfl
      exact absurd rfl first.2

/-- In front of a line that is all backslashes there may be more of them. -/
theorem backslashes_append (front line : List Char) :
    backslashes (front ++ line) =
      backslashes line + if backslashes line = line.length then backslashes front else 0 := by
  have parts : backslashes (front ++ line) =
      if backslashes line = line.reverse.length then
        (line.reverse ++ front.reverse.takeWhile (· = '\\')).length
      else backslashes line := by
    rw [backslashes, List.reverse_append, List.takeWhile_append, apply_ite List.length]
    rfl
  rw [parts, List.length_reverse, List.length_append, List.length_reverse]
  by_cases all : backslashes line = line.length
  · rw [if_pos all, if_pos all, all, backslashes]
  · rw [if_neg all, if_neg all, Nat.add_zero]

@[simp] theorem continues_escape : continues ('\\' :: c :: rest) = continues rest := by
  have parts := backslashes_append ['\\', c] rest
  rw [List.cons_append, List.cons_append, List.nil_append] at parts
  rw [continues, continues, parts]
  by_cases backslash : c = '\\'
  · subst backslash
    have two : backslashes ['\\', '\\'] = 2 := by decide
    rw [two]
    split
    · rw [Nat.add_mod_right]
    · rfl
  · have none : backslashes ['\\', c] = 0 := by simp [backslashes, backslash]
    rw [none, ite_self, Nat.add_zero]

theorem continues_cons (plain : c ≠ '\\') : continues (c :: rest) = continues rest := by
  have parts := backslashes_append [c] rest
  have none : backslashes [c] = 0 := by simp [backslashes, plain]
  rw [List.singleton_append, none, ite_self, Nat.add_zero] at parts
  rw [continues, continues, parts]

theorem splitKey_cons (plain : c ≠ '\\') :
    splitKey (c :: rest) =
      if c = '=' || c = ':' || isGap c then ([], c :: rest)
      else (splitKey rest).map (c :: ·) id := by
  rw [splitKey]
  · rintro rfl
    exact absurd rfl plain
  · rintro _ _ rfl
    exact absurd rfl plain

theorem units_escape (short : c ≠ 'u') :
    units ('\\' :: c :: rest) = (units rest).map ((unescaped c).toNat :: ·) := by
  rw [units]
  · rintro _ _ _ _ _ rfl
    exact absurd rfl short
  · exact short

theorem units_cons (plain : c ≠ '\\') :
    units (c :: rest) = (units rest).map (c.toNat :: ·) := by
  rw [units]
  · rintro rfl
    exact absurd rfl plain
  · rintro _ _ _ _ _ rfl
    exact absurd rfl plain
  · rintro _ rfl
    exact absurd rfl plain
  · rintro _ _ rfl
    exact absurd rfl plain

theorem characters_map (cs : List Char) : characters (cs.map Char.toNat) = some cs := by
  induction cs with
  | nil => rfl
  | cons c rest ih =>
    have valid : c.toNat < 0xD800 ∨ 0xDFFF < c.toNat := by
      rcases c.valid with low | high
      · exact .inl low
      · exact .inr high.1
    have first : (decide (c.toNat < 0xD800) || decide (0xDFFF < c.toNat)) = true := by
      simpa using valid
    rw [List.map_cons]
    unfold characters
    rw [if_pos first, ih, Option.map_some, Char.ofNat_toNat]

theorem decode_of_units {cs written : List Char} (numbers : units written = some (cs.map Char.toNat)) :
    decode written = some cs := by
  rw [decode, numbers]
  exact characters_map cs

end GatedStartup.PropertiesReader
