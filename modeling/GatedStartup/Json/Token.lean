import GatedStartup.Json.Value

/-! Tokens of a JSON text. The text is taken character by character; a fault ends the tokens.
Strings keep going past half a surrogate pair, which only a reader of the string rejects. -/
namespace GatedStartup.Json

inductive Token where
  | openArray | closeArray | openObject | closeObject | comma | colon
  | null
  | boolean (b : Bool)
  | number (n : Numeral)
  | string (text : Literal)
  | fault
deriving DecidableEq, Repr

namespace Lexer

/-- Where in a number the text is. -/
inductive NumberPart where
  | sign | zero | whole | point | fraction | exponentMark | exponentSign | exponent
deriving DecidableEq, Repr

/-- A string as read so far, last character first. `lead` is the first half of a surrogate pair
waiting for the second; `whole` is false once a half stands alone. -/
structure Spelled where
  reversed : List Char
  lead : Option Nat
  whole : Bool
deriving DecidableEq, Repr

/-- Between tokens, inside one, or past a fault. Digits are kept last first. -/
inductive Mode where
  | between
  | word (rest : List Char) (token : Token)
  | number (part : NumberPart) (n : Numeral)
  | string (s : Spelled)
  | escape (s : Spelled)
  | hex (s : Spelled) (value : Nat) (count : Nat)
  | dead
deriving DecidableEq, Repr

def isSpace (c : Char) : Bool := c = ' ' || c = '\n' || c = '\t' || c = '\r'

def digit? (c : Char) : Option Nat :=
  if '0'.toNat ≤ c.toNat && c.toNat ≤ '9'.toNat then some (c.toNat - '0'.toNat) else none

def hexDigit? (c : Char) : Option Nat :=
  if '0'.toNat ≤ c.toNat && c.toNat ≤ '9'.toNat then some (c.toNat - '0'.toNat)
  else if 'a'.toNat ≤ c.toNat && c.toNat ≤ 'f'.toNat then some (c.toNat - 'a'.toNat + 10)
  else if 'A'.toNat ≤ c.toNat && c.toNat ≤ 'F'.toNat then some (c.toNat - 'A'.toNat + 10)
  else none

def emptyNumeral (negative : Bool) : Numeral := ⟨negative, [], none, none⟩

def bad : List Token × Mode := ([.fault], .dead)

/-- What a character does between tokens. -/
def start (c : Char) : List Token × Mode :=
  match c with
  | '[' => ([.openArray], .between)
  | ']' => ([.closeArray], .between)
  | '\x7b' => ([.openObject], .between)
  | '\x7d' => ([.closeObject], .between)
  | ',' => ([.comma], .between)
  | ':' => ([.colon], .between)
  | '"' => ([], .string ⟨[], none, true⟩)
  | 'n' => ([], .word ['u', 'l', 'l'] .null)
  | 't' => ([], .word ['r', 'u', 'e'] (.boolean true))
  | 'f' => ([], .word ['a', 'l', 's', 'e'] (.boolean false))
  | '-' => ([], .number .sign (emptyNumeral true))
  | '0' => ([], .number .zero { emptyNumeral false with whole := [0] })
  | c =>
    if isSpace c then ([], .between)
    else match digit? c with
      | some d => ([], .number .whole { emptyNumeral false with whole := [d] })
      | none => bad

/-- Digits in reading order. -/
def finished (n : Numeral) : Numeral :=
  ⟨n.negative, n.whole.reverse, n.fraction.map List.reverse,
    n.exponent.map fun e => (e.1, e.2.reverse)⟩

def pushFraction (n : Numeral) (d : Nat) : Numeral :=
  { n with fraction := some (d :: n.fraction.getD []) }

def pushExponent (n : Numeral) (d : Nat) : Numeral :=
  let e := n.exponent.getD (false, [])
  { n with exponent := some (e.1, d :: e.2) }

/-- The number ends before the character. -/
def endNumber (n : Numeral) (c : Char) : List Token × Mode :=
  let next := start c
  (.number (finished n) :: next.1, next.2)

/-- An exponent may follow. -/
def afterFraction (n : Numeral) (c : Char) : List Token × Mode :=
  if c = 'e' || c = 'E' then ([], .number .exponentMark n) else endNumber n c

/-- A fraction or an exponent may follow. -/
def afterWhole (n : Numeral) (c : Char) : List Token × Mode :=
  if c = '.' then ([], .number .point n) else afterFraction n c

/-- The number goes on, ends before the character, or is none. -/
def feedNumber (part : NumberPart) (n : Numeral) (c : Char) : List Token × Mode :=
  match part, digit? c with
  | .sign, some 0 => ([], .number .zero { n with whole := [0] })
  | .sign, some d => ([], .number .whole { n with whole := [d] })
  | .sign, none => bad
  | .zero, some _ => bad
  | .zero, none => afterWhole n c
  | .whole, some d => ([], .number .whole { n with whole := d :: n.whole })
  | .whole, none => afterWhole n c
  | .point, some d => ([], .number .fraction (pushFraction n d))
  | .point, none => bad
  | .fraction, some d => ([], .number .fraction (pushFraction n d))
  | .fraction, none => afterFraction n c
  | .exponentMark, some d => ([], .number .exponent (pushExponent n d))
  | .exponentMark, none =>
    if c = '+' then ([], .number .exponentSign { n with exponent := some (false, []) })
    else if c = '-' then ([], .number .exponentSign { n with exponent := some (true, []) })
    else bad
  | .exponentSign, some d => ([], .number .exponent (pushExponent n d))
  | .exponentSign, none => bad
  | .exponent, some d => ([], .number .exponent (pushExponent n d))
  | .exponent, none => endNumber n c

/-- Another character of a string; a waiting half is then alone. -/
def Spelled.push (s : Spelled) (c : Char) : Spelled :=
  ⟨c :: s.reversed, none, s.whole && s.lead.isNone⟩

/-- A character given by its number in UTF-16. Two halves of a pair that follow each other make
one character. -/
def Spelled.pushUnit (s : Spelled) (unit : Nat) : Spelled :=
  if 0xD800 ≤ unit && unit < 0xDC00 then ⟨s.reversed, some unit, s.whole && s.lead.isNone⟩
  else if 0xDC00 ≤ unit && unit < 0xE000 then
    match s.lead with
    | some lead =>
      ⟨Char.ofNat (0x10000 + (lead - 0xD800) * 0x400 + (unit - 0xDC00)) :: s.reversed, none, s.whole⟩
    | none => ⟨s.reversed, none, false⟩
  else s.push (Char.ofNat unit)

def Spelled.text (s : Spelled) : Literal :=
  if s.whole && s.lead.isNone then some (String.ofList s.reversed.reverse) else none

/-- The character named by a letter after a backslash. -/
def named? (c : Char) : Option Char :=
  match c with
  | '"' => some '"'
  | '\\' => some '\\'
  | '/' => some '/'
  | 'b' => some (Char.ofNat 8)
  | 'f' => some (Char.ofNat 12)
  | 'n' => some '\n'
  | 'r' => some '\r'
  | 't' => some '\t'
  | _ => none

def feed (mode : Mode) (c : Char) : List Token × Mode :=
  match mode with
  | .dead => ([], .dead)
  | .between => start c
  | .word [] token =>
    let next := start c
    (token :: next.1, next.2)
  | .word (expected :: rest) token =>
    if c = expected then
      match rest with
      | [] => ([token], .between)
      | _ => ([], .word rest token)
    else bad
  | .number part n => feedNumber part n c
  | .string s =>
    if c = '"' then ([.string s.text], .between)
    else if c = '\\' then ([], .escape s)
    else if c.toNat < 32 then bad
    else ([], .string (s.push c))
  | .escape s =>
    if c = 'u' then ([], .hex s 0 0)
    else match named? c with
      | some named => ([], .string (s.push named))
      | none => bad
  | .hex s value count =>
    match hexDigit? c with
    | none => bad
    | some d =>
      let value := value * 16 + d
      if count = 3 then ([], .string (s.pushUnit value)) else ([], .hex s value (count + 1))

/-- What the end of the text does. -/
def finish (mode : Mode) : List Token :=
  match mode with
  | .dead | .between => []
  | .number .zero n | .number .whole n | .number .fraction n | .number .exponent n =>
    [.number (finished n)]
  | _ => [.fault]

end Lexer

/-- The tokens of a text, up to the first fault. -/
def tokens (cs : List Char) : List Token :=
  let last := cs.foldl
    (fun (state : List Token × Lexer.Mode) c =>
      let next := Lexer.feed state.2 c
      (next.1.reverse ++ state.1, next.2))
    ([], .between)
  last.1.reverse ++ Lexer.finish last.2

end GatedStartup.Json
