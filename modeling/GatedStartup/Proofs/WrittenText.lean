import GatedStartup.Json.Document
import GatedStartup.Json.Layout
import Mathlib.Data.List.Forall2

/-! What is written as JSON is read back. A string is one token whatever it holds, since quotes,
backslashes and controls are escaped in it; the white space of the layout gives no token, and the
tokens of a value build that value again. -/
namespace GatedStartup.Json

namespace Lexer

/-- The tokens of a text that begins in the given mode, and the mode it ends in. -/
def run : Mode → List Char → List Token × Mode
  | mode, [] => ([], mode)
  | mode, c :: cs =>
    let next := feed mode c
    let rest := run next.2 cs
    (next.1 ++ rest.1, rest.2)

theorem run_append (mode : Mode) (cs ds : List Char) :
    run mode (cs ++ ds) =
      ((run mode cs).1 ++ (run (run mode cs).2 ds).1, (run (run mode cs).2 ds).2) := by
  induction cs generalizing mode with
  | nil => rfl
  | cons c cs ih => simp [run, ih]

theorem run_append_of {mode middle last : Mode} {cs ds : List Char} {ts us : List Token}
    (first : run mode cs = (ts, middle)) (second : run middle ds = (us, last)) :
    run mode (cs ++ ds) = (ts ++ us, last) := by
  rw [run_append, first, second]

end Lexer

open Lexer

theorem tokens_eq_run (cs : List Char) :
    tokens cs = (run .between cs).1 ++ finish (run .between cs).2 := by
  have scan (mode : Mode) (before : List Token) :
      cs.foldl (fun (state : List Token × Mode) c =>
        let next := feed state.2 c
        (next.1.reverse ++ state.1, next.2)) (before, mode) =
          ((run mode cs).1.reverse ++ before, (run mode cs).2) := by
    induction cs generalizing mode before with
    | nil => rfl
    | cons c cs ih => simp [run, ih]
  simp [tokens, scan]

theorem hexDigit?_hexDigit {n : Nat} (small : n < 16) : hexDigit? (Text.hexDigit n) = some n := by
  revert n
  decide

theorem ofNat_of_toNat {c : Char} {n : Nat} (same : c.toNat = n) : c = Char.ofNat n := by
  rw [← same, Char.ofNat_toNat]

/-- A control is given by its number. -/
theorem run_hex (s : Spelled) {c : Char} (control : c.toNat < 32) :
    run (.string s)
      ['\\', 'u', '0', '0', Text.hexDigit (c.toNat / 16), Text.hexDigit (c.toNat % 16)] =
        ([], .string (s.push c)) := by
  have zero : hexDigit? '0' = some 0 := by decide
  have upper := hexDigit?_hexDigit (n := c.toNat / 16) (by omega)
  have lower := hexDigit?_hexDigit (n := c.toNat % 16) (by omega)
  have unit : c.toNat / 16 * 16 + c.toNat % 16 = c.toNat := by omega
  have single : s.pushUnit c.toNat = s.push c := by
    have below : ¬ (0xD800 ≤ c.toNat ∧ c.toNat < 0xDC00) := by omega
    have low : ¬ (0xDC00 ≤ c.toNat ∧ c.toNat < 0xE000) := by omega
    simp [Spelled.pushUnit, below, low, Char.ofNat_toNat]
  simp [run, feed, zero, upper, lower, unit, single]

/-- An escape is one more character of the string. -/
theorem run_escapeChar (s : Spelled) (c : Char) :
    run (.string s) (escapeChar c) = ([], .string (s.push c)) := by
  unfold escapeChar
  split
  all_goals try rfl
  next noQuote noBackslash _ _ _ =>
  split
  · next backspace =>
    obtain rfl := ofNat_of_toNat backspace
    rfl
  · split
    · next feed =>
      obtain rfl := ofNat_of_toNat feed
      rfl
    · split
      · next control => exact run_hex s control
      · next plain =>
        have apart : c ≠ '"' ∧ c ≠ '\\' := ⟨noQuote, noBackslash⟩
        simp [run, feed, apart, plain]

theorem run_escapeChars (cs reversed : List Char) :
    run (.string ⟨reversed, none, true⟩) (cs.flatMap escapeChar) =
      ([], .string ⟨cs.reverse ++ reversed, none, true⟩) := by
  induction cs generalizing reversed with
  | nil => rfl
  | cons c cs ih =>
    rw [List.flatMap_cons, run_append, run_escapeChar]
    simp [Spelled.push, ih]

/-- A string in quotes is one token, whatever is in it. -/
theorem run_escape (s : String) :
    run .between (escape s).toList = ([.string (some s)], .between) := by
  have quoted : (escape s).toList = ['"'] ++ (s.toList.flatMap escapeChar ++ ['"']) := by
    simp [escape]
  have opened : run .between ['"'] = ([], .string ⟨[], none, true⟩) := rfl
  have closed : run (.string ⟨s.toList.reverse ++ [], none, true⟩) ['"'] =
      ([.string (some s)], .between) := by
    simp [run, feed, Spelled.text]
  rw [quoted, run_append_of opened (run_append_of (run_escapeChars ..) closed)]
  rfl

theorem run_spaces (n : Nat) : run .between (List.replicate n ' ') = ([], .between) := by
  induction n with
  | zero => rfl
  | succ n ih =>
    have space : run .between [' '] = ([], .between) := rfl
    rw [List.replicate_succ, ← List.singleton_append, run_append_of space ih]
    rfl

/-- The text is the tokens, and nothing is left open. -/
def Lexes (text : String) (ts : List Token) : Prop :=
  run .between text.toList = (ts, .between)

theorem lexes_append {s t : String} {ts us : List Token} (first : Lexes s ts)
    (second : Lexes t us) : Lexes (s ++ t) (ts ++ us) := by
  rw [Lexes, String.toList_append]
  exact run_append_of first second

theorem lexes_indent (depth : Nat) : Lexes (indent depth) [] := by
  rw [Lexes, indent, String.toList_ofList]
  exact run_spaces _

/-- Lines with commas between them are the tokens of the lines with commas between them. -/
theorem lexes_lines {lines : List String} {tss : List (List Token)} (depth : Nat)
    (each : List.Forall₂ Lexes lines tss) :
    Lexes ((",\n").intercalate (lines.map fun line => indent depth ++ line))
      ([Token.comma].intercalate tss) := by
  induction each with
  | nil => rfl
  | @cons line ts lines tss first others ih =>
    have indented : Lexes (indent depth ++ line) ts := lexes_append (lexes_indent depth) first
    cases others with
    | nil => simpa using indented
    | @cons next us lines tss second others =>
      have separator : Lexes ",\n" [.comma] := rfl
      rw [List.map_cons, List.map_cons, String.intercalate_cons_cons, List.intercalate_cons_cons]
      exact lexes_append (lexes_append indented separator) ih

theorem lexes_enclose {opening closing : String} {first last : Token} {lines : List String}
    {tss : List (List Token)} (depth : Nat) (opens : Lexes opening [first])
    (closes : Lexes closing [last]) (each : List.Forall₂ Lexes lines tss) :
    Lexes (enclose opening closing depth lines)
      ([first] ++ [Token.comma].intercalate tss ++ [last]) := by
  rw [enclose]
  split
  · next none =>
    obtain rfl := List.isEmpty_iff.mp none
    obtain rfl := List.forall₂_nil_left_iff.mp each
    exact lexes_append opens closes
  · have lineEnd : Lexes "\n" [] := rfl
    have inside := lexes_append (lexes_append opens lineEnd) (lexes_lines (depth + 1) each)
    have back := lexes_append (lexes_append inside lineEnd) (lexes_indent depth)
    simpa using lexes_append back closes

mutual

/-- The tokens that a value is written with. -/
def Value.tokens : Value → List Token
  | .null => [.null]
  | .boolean b => [.boolean b]
  | .number n => [.number n]
  | .string text => [.string text]
  | .array items _ => [.openArray] ++ [Token.comma].intercalate (itemTokens items) ++ [.closeArray]
  | .object members _ =>
    [.openObject] ++ [Token.comma].intercalate (memberTokens members) ++ [.closeObject]
  | .broken => [.fault]

def itemTokens : List Value → List (List Token)
  | [] => []
  | v :: rest => v.tokens :: itemTokens rest

def memberTokens : List (Literal × Value) → List (List Token)
  | [] => []
  | (key, v) :: rest => ([.string key, .colon] ++ v.tokens) :: memberTokens rest

end

/-- Values of texts, truth values and nothing, in lists and objects. -/
inductive Written : Value → Prop where
  | null : Written .null
  | boolean (b : Bool) : Written (.boolean b)
  | text (s : String) : Written (.text s)
  | list {items : List Value} : (∀ v ∈ items, Written v) → Written (.list items)
  | members {parts : List (String × Value)} : (∀ part ∈ parts, Written part.2) →
      Written (.members parts)

theorem lexes_null : Lexes "null" [.null] := by
  rfl

theorem lexes_boolean (b : Bool) : Lexes (Text.boolean b) [.boolean b] := by
  cases b <;> rfl

theorem lexes_items {items : List Value} (depth : Nat)
    (each : ∀ v ∈ items, Lexes (v.layout depth) v.tokens) :
    List.Forall₂ Lexes (layoutItems depth items) (itemTokens items) := by
  induction items with
  | nil => exact .nil
  | cons v rest ih =>
    rw [List.forall_mem_cons] at each
    exact .cons each.1 (ih each.2)

theorem lexes_members {parts : List (String × Value)} (depth : Nat)
    (each : ∀ part ∈ parts, Lexes (part.2.layout depth) part.2.tokens) :
    List.Forall₂ Lexes (layoutMembers depth (parts.map fun part => (some part.1, part.2)))
      (memberTokens (parts.map fun part => (some part.1, part.2))) := by
  induction parts with
  | nil => exact .nil
  | cons part rest ih =>
    rw [List.forall_mem_cons] at each
    have colon : Lexes ": " [.colon] := rfl
    have line := lexes_append (lexes_append (run_escape part.1) colon) each.1
    exact .cons line (ih each.2)

/-- The layout of a value gives its tokens, however deep it stands. -/
theorem Written.lexes_layout {v : Value} (written : Written v) (depth : Nat) :
    Lexes (v.layout depth) v.tokens := by
  induction written generalizing depth with
  | null => exact lexes_null
  | boolean b => exact lexes_boolean b
  | text s => exact run_escape s
  | list _ ih =>
    exact lexes_enclose depth rfl rfl (lexes_items (depth + 1) fun v member => ih v member _)
  | members _ ih =>
    exact lexes_enclose depth rfl rfl (lexes_members (depth + 1) fun part member => ih part member _)

namespace Builder

/-- Where a value may come, its tokens put it there. -/
def Builds (ts : List Token) (v : Value) : Prop :=
  ∀ expect stack, expect.takesValue = true → ts.foldl feed (.reading expect stack) = place v stack

theorem builds_items {items : List Value} (some_ : items ≠ [])
    (each : ∀ v ∈ items, Builds v.tokens v) (expect : Expect) (takes : expect.takesValue = true)
    (before : List Value) (outer : List Frame) :
    ([Token.comma].intercalate (itemTokens items)).foldl feed
        (.reading expect (.array before :: outer)) =
      .reading .commaOrEnd (.array (items.reverse ++ before) :: outer) := by
  induction items generalizing expect before with
  | nil => exact absurd rfl some_
  | cons v rest ih =>
    rw [List.forall_mem_cons] at each
    have placed : v.tokens.foldl feed (.reading expect (.array before :: outer)) =
        .reading .commaOrEnd (.array (v :: before) :: outer) := each.1 expect _ takes
    cases rest with
    | nil => simpa [itemTokens] using placed
    | cons next rest =>
      have others := ih (by simp) each.2 .value rfl (v :: before)
      have separated : [Token.comma].foldl feed
          (.reading .commaOrEnd (.array (v :: before) :: outer)) =
            .reading .value (.array (v :: before) :: outer) := rfl
      rw [itemTokens] at others ⊢
      rw [itemTokens, List.intercalate_cons_cons, List.foldl_append, List.foldl_append, placed,
        separated, others]
      simp

theorem builds_members {parts : List (String × Value)} (some_ : parts ≠ [])
    (each : ∀ part ∈ parts, Builds part.2.tokens part.2) (expect : Expect)
    (takes : expect = .keyOrEnd ∨ expect = .key) (before : List (Literal × Value))
    (outer : List Frame) :
    ([Token.comma].intercalate
        (memberTokens (parts.map fun part => (some part.1, part.2)))).foldl feed
          (.reading expect (.object before none :: outer)) =
      .reading .commaOrEnd (.object
        ((parts.map fun part => (some part.1, part.2)).reverse ++ before) none :: outer) := by
  induction parts generalizing expect before with
  | nil => exact absurd rfl some_
  | cons part rest ih =>
    rw [List.forall_mem_cons] at each
    have named : ([Token.string (some part.1), .colon] ++ part.2.tokens).foldl feed
        (.reading expect (.object before none :: outer)) =
          .reading .commaOrEnd (.object ((some part.1, part.2) :: before) none :: outer) := by
      have awaits : [Token.string (some part.1), .colon].foldl feed
          (.reading expect (.object before none :: outer)) =
            .reading .value (.object before (some (some part.1)) :: outer) := by
        rcases takes with rfl | rfl <;> rfl
      rw [List.foldl_append, awaits]
      exact each.1 .value _ rfl
    cases rest with
    | nil => simpa [memberTokens] using named
    | cons next rest =>
      have others := ih (by simp) each.2 .key (.inr rfl) ((some part.1, part.2) :: before)
      have separated : [Token.comma].foldl feed
          (.reading .commaOrEnd (.object ((some part.1, part.2) :: before) none :: outer)) =
            .reading .key (.object ((some part.1, part.2) :: before) none :: outer) := rfl
      rw [List.map_cons, memberTokens] at others ⊢
      rw [List.map_cons, memberTokens, List.intercalate_cons_cons, List.foldl_append,
        List.foldl_append, named, separated, others]
      simp

/-- The tokens of a value build the value. -/
theorem builds_tokens {v : Value} (written : Written v) : Builds v.tokens v := by
  induction written with
  | null => exact fun expect stack takes => if_pos takes
  | boolean b => exact fun expect stack takes => if_pos takes
  | text s =>
    intro expect stack takes
    cases expect with
    | value => rfl
    | itemOrEnd => rfl
    | _ => nomatch takes
  | @list items _ ih =>
    intro expect stack takes
    have opened : [Token.openArray].foldl feed (.reading expect stack) =
        .reading .itemOrEnd (.array [] :: stack) := if_pos takes
    rw [Value.list, Value.tokens, List.foldl_append, List.foldl_append, opened]
    rcases eq_or_ne items [] with rfl | some_
    · rfl
    · have inside := builds_items some_ ih .itemOrEnd rfl [] stack
      rw [inside, List.append_nil]
      exact congrArg (fun items => place (.array items true) stack) items.reverse_reverse
  | @members parts _ ih =>
    intro expect stack takes
    have opened : [Token.openObject].foldl feed (.reading expect stack) =
        .reading .keyOrEnd (.object [] none :: stack) := if_pos takes
    rw [Value.members, Value.tokens, List.foldl_append, List.foldl_append, opened]
    rcases eq_or_ne parts [] with rfl | some_
    · rfl
    · have inside := builds_members some_ ih .keyOrEnd (.inl rfl) [] stack
      rw [inside, List.append_nil]
      exact congrArg (fun members => place (.object members true) stack)
        (List.reverse_reverse _)

end Builder

/-- What is written is read back. -/
theorem Written.ofString_pretty {v : Value} (written : Written v) :
    Document.ofString v.pretty = ⟨v, true⟩ := by
  have lineEnd : Lexes "\n" [] := rfl
  have lexed : run .between v.pretty.toList = (v.tokens ++ [], .between) :=
    lexes_append (written.lexes_layout 0) lineEnd
  have built := Builder.builds_tokens written .value [] rfl
  rw [Document.ofString, tokens_eq_run, lexed, Document.ofTokens]
  simp only [finish, List.append_nil, built]
  rfl

end GatedStartup.Json
