import GatedStartup.Proofs.PropertiesReader
import GatedStartup.Property.Text
import Mathlib.Data.List.Basic
import Mathlib.Data.List.TakeWhile

/-! Property sets whose text is read back. A key or value comes back whole when it is decoded. The
places in which the format sees more than a character decide the rest: the beginning of a line, the
end of a key, the beginning of a value. -/
namespace GatedStartup.PropertySet
open PropertiesReader

variable {inKey : Bool} {c : Char} {cs key value rest : List Char}

/-- White space that is written as it is. -/
def bare (inKey : Bool) (c : Char) : Bool := c = formFeed || (!inKey && c = ' ')

@[simp] theorem escape_nil : escape inKey [] = [] := rfl

theorem escape_cons : escape inKey (c :: cs) = escapeChar inKey c ++ escape inKey cs := by
  rw [escape, List.flatMap_cons, ← escape]

/-- What a character is written as, and what the reader may see in it. -/
inductive Written (inKey : Bool) (c : Char) : Prop
  | escaped (e : Char) (shape : ∀ cs, escape inKey (c :: cs) = '\\' :: e :: escape inKey cs)
      (back : unescaped e = c) (letter : e ≠ 'u' ∧ e ≠ '\n' ∧ e ≠ '\r')
      (covered : bare inKey c = false) (unmarked : isComment [c] = false)
  | plain (shape : ∀ cs, escape inKey (c :: cs) = c :: escape inKey cs)
      (letter : c ≠ '\\' ∧ c ≠ '\n' ∧ c ≠ '\r') (gap : isGap c = bare inKey c)
      (apart : inKey = true → c ≠ '=' ∧ c ≠ ':')

theorem written (inKey : Bool) (c : Char) : Written inKey c := by
  by_cases backslash : c = '\\'
  · subst backslash
    exact .escaped '\\' (fun _ => rfl) rfl (by decide) (by simp [bare, formFeed]) rfl
  by_cases feed : c = '\n'
  · subst feed
    exact .escaped 'n' (fun _ => rfl) rfl (by decide) (by simp [bare, formFeed]) rfl
  by_cases back : c = '\r'
  · subst back
    exact .escaped 'r' (fun _ => rfl) rfl (by decide) (by simp [bare, formFeed]) rfl
  by_cases tab : c = '\t'
  · subst tab
    exact .escaped 't' (fun _ => rfl) rfl (by decide) (by simp [bare, formFeed]) rfl
  have others : escapeChar inKey c =
      if inKey && (c = '=' || c = ':' || c = ' ') then ['\\', c] else [c] := by
    rw [escapeChar] <;> assumption
  by_cases separator : (inKey && (c = '=' || c = ':' || c = ' ')) = true
  · simp only [Bool.and_eq_true, Bool.or_eq_true, decide_eq_true_eq] at separator
    obtain ⟨rfl, (rfl | rfl) | rfl⟩ := separator
    all_goals exact .escaped _ (fun _ => rfl) rfl (by decide) rfl rfl
  · rw [if_neg separator] at others
    refine .plain (fun cs => ?_) ⟨backslash, feed, back⟩ ?_ ?_
    · rw [escape_cons, others]
      rfl
    · cases inKey
      · simp [isGap, bare, tab, Bool.or_comm]
      · have space : c ≠ ' ' := by
          rintro rfl
          exact separator rfl
        simp [isGap, bare, tab, space]
    · rintro rfl
      constructor
      all_goals
        rintro rfl
        exact separator rfl

theorem escape_unbroken (inKey : Bool) (cs : List Char) :
    ∀ d ∈ escape inKey cs, d ≠ '\n' ∧ d ≠ '\r' := by
  induction cs with
  | nil => simp
  | cons c cs ih =>
    rcases written inKey c with ⟨e, shape, -, letter, -, -⟩ | ⟨shape, letter, -, -⟩
    · rw [shape, List.forall_mem_cons, List.forall_mem_cons]
      exact ⟨by decide, letter.2, ih⟩
    · rw [shape, List.forall_mem_cons]
      exact ⟨letter.2, ih⟩

/-- Nothing that is escaped carries a line on. -/
theorem continues_escape_append : continues (escape inKey cs ++ rest) = continues rest := by
  induction cs with
  | nil => rfl
  | cons c cs ih =>
    rcases written inKey c with ⟨e, shape, -, -, -, -⟩ | ⟨shape, letter, -, -⟩
    · rw [shape, List.cons_append, List.cons_append, continues_escape, ih]
    · rw [shape, List.cons_append, continues_cons letter.1, ih]

theorem units_escape_append :
    units (escape inKey cs ++ rest) = (units rest).map (cs.map Char.toNat ++ ·) := by
  induction cs with
  | nil => simp
  | cons c cs ih =>
    rcases written inKey c with ⟨e, shape, back, letter, -, -⟩ | ⟨shape, letter, -, -⟩
    · rw [shape, List.cons_append, List.cons_append, units_escape letter.1, back, ih, Option.map_map]
      rfl
    · rw [shape, List.cons_append, units_cons letter.1, ih, Option.map_map]
      rfl

/-- What is escaped is decoded again. -/
theorem decode_escape (inKey : Bool) (cs : List Char) : decode (escape inKey cs) = some cs := by
  have whole := @units_escape_append inKey cs []
  rw [List.append_nil] at whole
  apply decode_of_units
  simp [whole, units]

theorem dropWhile_isGap (unspaced : rest.dropWhile isGap = rest) :
    (escape inKey cs ++ rest).dropWhile isGap = escape inKey (cs.dropWhile (bare inKey)) ++ rest := by
  induction cs with
  | nil => exact unspaced
  | cons c cs ih =>
    rcases written inKey c with ⟨e, shape, -, -, covered, -⟩ | ⟨shape, -, gap, -⟩
    · rw [List.dropWhile_cons_of_neg (by simp [covered]), shape]
      rfl
    · rw [shape, List.cons_append, List.dropWhile_cons, List.dropWhile_cons, gap, ih]
      split
      · rfl
      · rw [shape, List.cons_append]

/-- Of a key the reader takes what stands before its first form feed. -/
theorem splitKey_escape :
    splitKey (escape true key ++ '=' :: rest) =
      (escape true (key.takeWhile (!bare true ·)),
        escape true (key.dropWhile (!bare true ·)) ++ '=' :: rest) := by
  induction key with
  | nil => rfl
  | cons c key ih =>
    rcases written true c with ⟨e, shape, -, -, covered, -⟩ | ⟨shape, letter, gap, apart⟩
    · rw [shape, List.cons_append, List.cons_append, splitKey, ih]
      simp [covered, shape]
    · have ends : (c = '=' || c = ':' || isGap c) = bare true c := by simp [apart rfl, gap]
      rw [shape, List.cons_append, splitKey_cons letter.1, ends, ih]
      cases seen : bare true c with
      | true => simp [seen, shape]
      | false => simp [seen, shape]

theorem isComment_escape_append (plain : isComment rest = false) :
    isComment (escape true key ++ rest) = isComment key := by
  cases key with
  | nil => exact plain
  | cons c key =>
    rcases written true c with ⟨e, shape, -, -, -, unmarked⟩ | ⟨shape, -, -, -⟩
    · rw [shape]
      exact unmarked.symm
    · rw [shape]
      rfl

/-- A line without its end. -/
def body (key value : List Char) : List Char := escape true key ++ '=' :: escape false value

theorem line_eq (entry : String × String) :
    line entry = body entry.1.toList entry.2.toList ++ ['\n'] := by
  simp [line, body]

theorem body_unbroken (key value : List Char) : ∀ d ∈ body key value, d ≠ '\n' ∧ d ≠ '\r' := by
  intro d inside
  rcases List.mem_append.mp inside with inKey | later
  · exact escape_unbroken true key d inKey
  rcases List.mem_cons.mp later with rfl | inValue
  · decide
  · exact escape_unbroken false value d inValue

theorem continues_body (key value : List Char) : continues (body key value) = false := by
  have value_ends := @continues_escape_append false value []
  rw [body, continues_escape_append, continues_cons (by decide), ← List.append_nil (escape _ _),
    value_ends]
  rfl

theorem decode_body (key value : List Char) :
    decode (body key value) = some (key ++ '=' :: value) := by
  have later := @units_escape_append false value []
  rw [List.append_nil] at later
  apply decode_of_units
  rw [body, units_escape_append, units_cons (by decide), later]
  simp [units]

/-- The lines of a text, and what follows the last line end. -/
theorem naturalLines_flatMap (entries : List (String × String)) :
    naturalLines (entries.flatMap line) =
      entries.map (fun entry => body entry.1.toList entry.2.toList) ++ [[]] := by
  induction entries with
  | nil => rfl
  | cons entry entries ih =>
    rw [List.flatMap_cons, line_eq, List.append_assoc]
    exact (naturalLines_append (body_unbroken _ _)).trans (congrArg _ ih)

theorem join_body (key value : List Char) (lines : List (List Char)) :
    join none (body key value :: lines) =
      if isComment (key.dropWhile (bare true)) then join none lines
      else body (key.dropWhile (bare true)) value :: join none lines := by
  have begins : (body key value).dropWhile isGap = body (key.dropWhile (bare true)) value :=
    dropWhile_isGap rfl
  have mark : isComment (body (key.dropWhile (bare true)) value) =
      isComment (key.dropWhile (bare true)) := isComment_escape_append rfl
  have there : (body (key.dropWhile (bare true)) value).isEmpty = false := by simp [body]
  simp only [join, begins, mark, there, continues_body, Option.isNone_none, Option.getD_none,
    Bool.true_and, Bool.false_or, List.nil_append, Bool.false_eq_true, if_false]

/-- What the reader takes for the value of a key that ends in `late`. -/
def valueSeen (late value : List Char) : List Char :=
  if late.isEmpty then value.dropWhile (bare false) else late ++ '=' :: value

theorem decode_afterKey (key value : List Char) :
    decode (afterKey (body key value)) = some (valueSeen (key.dropWhile (bare true)) value) := by
  have begins : (body key value).dropWhile isGap = body (key.dropWhile (bare true)) value :=
    dropWhile_isGap rfl
  have spaces := @dropWhile_isGap false value [] rfl
  rw [List.append_nil, List.append_nil] at spaces
  rw [afterKey, begins]
  cases key.dropWhile (bare true) with
  | nil =>
    simp only [body, escape_nil, List.nil_append, decide_true, Bool.true_or, if_true, spaces]
    exact decode_escape false _
  | cons c late =>
    have whole := decode_body (c :: late) value
    rcases written true c with ⟨e, shape, -, -, -, -⟩ | ⟨shape, -, -, apart⟩
    · rw [body, shape, List.cons_append] at whole ⊢
      exact whole
    · have other : (decide (c = '=') || decide (c = ':')) = false := by simp [apart rfl]
      rw [body, shape, List.cons_append] at whole ⊢
      simp only [other]
      exact whole

theorem pair_body (key value : List Char) :
    pair (body key value) = some (String.ofList (key.takeWhile (!bare true ·)),
      String.ofList (valueSeen ((key.dropWhile (!bare true ·)).dropWhile (bare true)) value)) := by
  have parts : splitKey (body key value) =
      (escape true (key.takeWhile (!bare true ·)), body (key.dropWhile (!bare true ·)) value) :=
    splitKey_escape
  simp only [pair, parts, decode_escape, decode_afterKey]
  rfl

/-- What the reader makes of a pair: nothing of a line that begins with a mark, and of any other
a key up to the first form feed in it. White space before keys and values is lost. -/
def readsAs (entry : String × String) : Option (String × String) :=
  let key := entry.1.toList.dropWhile (bare true)
  if isComment key then none
  else
    let late := (key.dropWhile (!bare true ·)).dropWhile (bare true)
    some (String.ofList (key.takeWhile (!bare true ·)),
      String.ofList (valueSeen late entry.2.toList))

/-- Every text is read, and each pair on its own decides what is read of it. -/
theorem read_text (p : PropertySet) :
    PropertiesReader.read p.text = some (p.entries.filterMap readsAs) := by
  rw [PropertiesReader.read, text, String.toList_ofList, logicalLines, naturalLines_flatMap]
  induction p.entries with
  | nil => rfl
  | cons entry entries ih =>
    rw [List.map_cons, List.cons_append, join_body, List.filterMap_cons, readsAs]
    by_cases comment : isComment (entry.1.toList.dropWhile (bare true)) = true
    · simp only [if_pos comment]
      exact ih
    · simp only [if_neg comment]
      have there : (!(body (entry.1.toList.dropWhile (bare true)) entry.2.toList).isEmpty) = true := by
        simp [body]
      rw [List.filter_cons, if_pos there, List.mapM_cons, pair_body, ih]
      rfl

/-- A pair whose line shows it to the reader as it is. -/
structure Legible (entry : String × String) : Prop where
  key : formFeed ∉ entry.1.toList
  unmarked : isComment entry.1.toList = false
  value : ∀ c ∈ entry.2.toList.head?, c ≠ ' ' ∧ c ≠ formFeed

theorem dropWhile_bare_iff (value : List Char) :
    value.dropWhile (bare false) = value ↔ ∀ c ∈ value.head?, c ≠ ' ' ∧ c ≠ formFeed := by
  cases value with
  | nil => simp
  | cons c value =>
    rw [List.head?_cons, List.dropWhile_eq_self_iff]
    simp [bare, and_comm]

theorem not_bare (clear : formFeed ∉ key) : ∀ c ∈ key, bare true c = false := by
  intro c inside
  have apart : c ≠ formFeed := ne_of_mem_of_not_mem inside clear
  simp [bare, apart]

theorem dropWhile_bare (clear : formFeed ∉ key) : key.dropWhile (bare true) = key := by
  rw [List.dropWhile_eq_self_iff]
  intro there
  simp [not_bare clear]

/-- A key without a form feed and without a mark in front is read as it is. -/
theorem readsAs_of_key {entry : String × String} (clear : formFeed ∉ entry.1.toList)
    (unmarked : isComment entry.1.toList = false) :
    readsAs entry = some (entry.1, String.ofList (entry.2.toList.dropWhile (bare false))) := by
  have name : entry.1.toList.takeWhile (!bare true ·) = entry.1.toList := by
    rw [List.takeWhile_eq_self_iff]
    intro c inside
    simp [not_bare clear c inside]
  have after : entry.1.toList.dropWhile (!bare true ·) = [] := by
    rw [List.dropWhile_eq_nil_iff]
    intro c inside
    simp [not_bare clear c inside]
  simp [readsAs, dropWhile_bare clear, unmarked, name, after, valueSeen]

/-- No key that is read has a form feed. -/
theorem formFeed_not_mem_of_readsAs {entry seen : String × String}
    (reads : readsAs entry = some seen) : formFeed ∉ seen.1.toList := by
  rw [readsAs] at reads
  split at reads
  · nomatch reads
  · rw [← Option.some.inj reads, String.toList_ofList]
    intro inside
    have plain := List.mem_takeWhile_imp inside
    simp [bare] at plain

theorem readsAs_eq_self_iff (entry : String × String) :
    readsAs entry = some entry ↔ Legible entry := by
  constructor
  · intro same
    have clear := formFeed_not_mem_of_readsAs same
    have unmarked : isComment entry.1.toList = false := by
      by_contra marked
      rw [Bool.not_eq_false] at marked
      rw [readsAs, dropWhile_bare clear, if_pos marked] at same
      nomatch same
    rw [readsAs_of_key clear unmarked] at same
    have value : String.ofList (entry.2.toList.dropWhile (bare false)) = entry.2 :=
      congrArg Prod.snd (Option.some.inj same)
    have whole := congrArg String.toList value
    rw [String.toList_ofList] at whole
    exact ⟨clear, unmarked, (dropWhile_bare_iff _).mp whole⟩
  · intro legible
    rw [readsAs_of_key legible.key legible.unmarked, (dropWhile_bare_iff _).mpr legible.value,
      String.ofList_toList]

/-- A set is read back from its text when each of its pairs is legible, and only then. -/
theorem read_back_iff (p : PropertySet) :
    PropertiesReader.read p.text = some p.entries ↔ ∀ entry ∈ p.entries, Legible entry := by
  have each : p.entries.filterMap readsAs = p.entries ↔
      ∀ entry ∈ p.entries, readsAs entry = some entry := by
    have pairwise := @List.filterMap_eq_map_iff_forall_eq_some _ _ readsAs id p.entries
    rwa [List.map_id] at pairwise
  rw [read_text, Option.some.injEq, each]
  exact forall₂_congr fun entry _ => readsAs_eq_self_iff entry

/-- A key with a mark in front, a space and a form feed before values, and a form feed in a key. -/
def lossy : PropertySet :=
  ofList [("#note", "1"), ("lead", " x"), ("form\x0cfeed", "y"), ("blank", "\x0cz")]

theorem lossy_misread :
    PropertiesReader.read lossy.text =
        some [("lead", "x"), ("form", "feed=y"), ("blank", "z")] ∧
      PropertiesReader.read lossy.text ≠ some lossy.entries := by
  have seen : PropertiesReader.read lossy.text =
      some [("lead", "x"), ("form", "feed=y"), ("blank", "z")] := by
    rw [read_text]
    decide
  refine ⟨seen, ?_⟩
  rw [seen]
  decide

end GatedStartup.PropertySet
