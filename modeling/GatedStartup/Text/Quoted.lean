import GatedStartup.Text.Unprintable

/-! Texts inside descriptions and messages. A text stands between quotes; quotes, backslashes
and the four named controls are escaped, other hidden characters are named by their code point
in braces. -/
namespace GatedStartup.Text

def hexDigit (n : Nat) : Char := if n < 10 then Char.ofNat (48 + n) else Char.ofNat (87 + n)

/-- Lower case hexadecimal digits, without leading zeros. -/
def hex (n : Nat) : String := String.ofList (Nat.toDigits 16 n)

def quoteChar : Char → String
  | '\t' => "\\t"
  | '\n' => "\\n"
  | '\r' => "\\r"
  | '"' => "\\\""
  | '\\' => "\\\\"
  | c =>
    if c = Char.ofNat 0 then "\\0"
    else if isHidden c then "\\u\x7b" ++ hex c.toNat ++ "\x7d"
    else String.singleton c

def quoted (s : String) : String :=
  "\"" ++ String.join (s.toList.map quoteChar) ++ "\""

/-- Items between brackets, separated by a comma. -/
def bracketed (items : List String) : String := "[" ++ ", ".intercalate items ++ "]"

/-- Items between braces, separated by a comma. -/
def braced (items : List String) : String := "\x7b" ++ ", ".intercalate items ++ "\x7d"

/-- An optional value, described or absent. -/
def optional : Option String → String
  | none => "None"
  | some text => "Some(" ++ text ++ ")"

def boolean (b : Bool) : String := if b then "true" else "false"

/-- A record with its named parts. Records shown `partly` end in dots: they have parts not shown. -/
def record (name : String) (parts : List (String × String)) (partly : Bool) : String :=
  let shown := parts.map fun part => part.1 ++ ": " ++ part.2
  name ++ " \x7b " ++ ", ".intercalate (if partly then shown ++ [".."] else shown) ++ " \x7d"

end GatedStartup.Text
