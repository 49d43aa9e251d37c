import GatedStartup.Json.Value
import GatedStartup.Text.Quoted

/-! JSON text with one part a line, two spaces deeper in each container. Empty containers stay
on one line. -/
namespace GatedStartup.Json

/-- Quotes, backslashes and characters below the space are escaped; all others stand as they
are. -/
def escapeChar : Char → List Char
  | '"' => ['\\', '"']
  | '\\' => ['\\', '\\']
  | '\n' => ['\\', 'n']
  | '\r' => ['\\', 'r']
  | '\t' => ['\\', 't']
  | c =>
    if c.toNat = 8 then ['\\', 'b']
    else if c.toNat = 12 then ['\\', 'f']
    else if c.toNat < 32 then
      ['\\', 'u', '0', '0', Text.hexDigit (c.toNat / 16), Text.hexDigit (c.toNat % 16)]
    else [c]

def escape (s : String) : String := "\"" ++ String.ofList (s.toList.flatMap escapeChar) ++ "\""

def digitsText (digits : List Nat) : String :=
  String.ofList (digits.map fun d => Char.ofNat ('0'.toNat + d))

def Numeral.text (n : Numeral) : String :=
  (if n.negative then "-" else "") ++ digitsText n.whole ++
    (match n.fraction with
      | none => ""
      | some digits => "." ++ digitsText digits) ++
    (match n.exponent with
      | none => ""
      | some (negative, digits) => "e" ++ (if negative then "-" else "") ++ digitsText digits)

def indent (depth : Nat) : String := String.ofList (List.replicate (2 * depth) ' ')

/-- Lines between brackets, the closing one back at `depth`. -/
def enclose (opening closing : String) (depth : Nat) (lines : List String) : String :=
  if lines.isEmpty then opening ++ closing
  else
    opening ++ "\n" ++ (",\n").intercalate (lines.map fun line => indent (depth + 1) ++ line) ++
      "\n" ++ indent depth ++ closing

mutual

def Value.layout (depth : Nat) : Value → String
  | .null => "null"
  | .boolean b => Text.boolean b
  | .number n => n.text
  | .string text => escape (text.getD "")
  | .array items _ => enclose "[" "]" depth (layoutItems (depth + 1) items)
  | .object members _ => enclose "\x7b" "\x7d" depth (layoutMembers (depth + 1) members)
  | .broken => ""

def layoutItems (depth : Nat) : List Value → List String
  | [] => []
  | v :: rest => v.layout depth :: layoutItems depth rest

def layoutMembers (depth : Nat) : List (Literal × Value) → List String
  | [] => []
  | (key, v) :: rest =>
    (escape (key.getD "") ++ ": " ++ v.layout depth) :: layoutMembers depth rest

end

/-- The text of a value with a line end after it. -/
def Value.pretty (v : Value) : String := v.layout 0 ++ "\n"

end GatedStartup.Json
