import GatedStartup.Security.ClassName
import GatedStartup.Text.Quoted

/-! Names of types, and the references made from them. A name is spelled out of words, with marks
and brackets around the types that it is built from. -/
namespace GatedStartup

/-- One or more characters, none of them white space. -/
structure Word where
  text : String
  written : text ≠ ""
  solid : text.toList.any Text.isBlankChar = false

def Word.ofString? (s : String) : Option Word :=
  if fits : s ≠ "" ∧ s.toList.any Text.isBlankChar = false then some ⟨s, fits.1, fits.2⟩
  else none

/-- Types in general, the parts of their paths, and the constants that types are applied to. -/
inductive TypeName where
  /-- A name of its own, such as `u32`, `str` and `!`, or a number. -/
  | word (w : Word)
  /-- A character between single quotes. -/
  | character (c : Char)
  /-- `a::b` -/
  | member (owner part : TypeName)
  /-- `a<b, c>` -/
  | applied (head : TypeName) (arguments : List TypeName)
  /-- `fn(a, b)` -/
  | taking (head : TypeName) (parameters : List TypeName)
  /-- `<a>`, the part of a path that is no name. -/
  | angled (inside : TypeName)
  /-- `[a]` -/
  | slice (item : TypeName)
  /-- `[a; 3]` -/
  | array (item length : TypeName)
  /-- `(a, b)`, with a comma after a single item. -/
  | tuple (items : List TypeName)
  /-- A word between two names: `a + b`, `a as b`, `fn(a) -> b`. -/
  | joined (first : TypeName) (link : Word) (second : TypeName)
  /-- A word before a name, close to it as in `&a` or `apart` as in `&mut a`. -/
  | marked (mark : Word) (apart : Bool) (rest : TypeName)

namespace TypeName

/-- The other kind of quotes needs no escape. -/
def quotedCharacter (c : Char) : String :=
  let shown :=
    if c = '\'' then String.ofList ['\\', '\''] else if c = '"' then "\"" else Text.quoteChar c
  String.singleton '\'' ++ shown ++ String.singleton '\''

mutual

def text : TypeName → String
  | .word w => w.text
  | .character c => quotedCharacter c
  | .member owner part => owner.text ++ "::" ++ part.text
  | .applied head arguments => head.text ++ ("<" ++ ", ".intercalate (texts arguments)) ++ ">"
  | .taking head parameters => head.text ++ ("(" ++ ", ".intercalate (texts parameters)) ++ ")"
  | .angled inside => "<" ++ inside.text ++ ">"
  | .slice item => "[" ++ item.text ++ "]"
  | .array item length => "[" ++ (item.text ++ "; " ++ length.text) ++ "]"
  | .tuple items =>
    "(" ++ (", ".intercalate (texts items) ++ if items.length = 1 then "," else "") ++ ")"
  | .joined first link second => first.text ++ (" " ++ link.text ++ " ") ++ second.text
  | .marked mark apart rest => mark.text ++ (if apart then " " else "") ++ rest.text

def texts : List TypeName → List String
  | [] => []
  | name :: rest => name.text :: texts rest

end

end TypeName

/-- A reference to a type. Its name is taken as it is. -/
def ClassName.ofType (type : TypeName) : ClassName := .named type.text

end GatedStartup
