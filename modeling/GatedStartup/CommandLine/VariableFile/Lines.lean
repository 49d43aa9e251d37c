import GatedStartup.Text.Blank

/-! The lines of a file of variables. A line goes on in the next one while a quote is open in it,
after a backslash, or when the text ends in white space that nothing follows. A `#` after white
space outside quotes starts a comment, which ends the line. The text counts up to its first line
that is no UTF-8. -/
namespace GatedStartup.CommandLine.VariableFile

/-- What a character of a line is taken as. -/
inductive Quoting where
  | plain | gap | escaped
  | strong | strongEscaped
  | weak | weakEscaped
deriving DecidableEq, Repr

namespace Quoting

/-- A character outside quotes. -/
def opening (c : Char) : Quoting :=
  if c = '\\' then .escaped
  else if c = '"' then .weak
  else if c = '\'' then .strong
  else .plain

/-- Only one white space character in a row is a gap. -/
def next : Quoting → Char → Quoting
  | .plain, c => if Text.isBlankChar c && c != '\n' && c != '\r' then .gap else opening c
  | .gap, c => opening c
  | .escaped, _ => .plain
  | .strong, c => if c = '\\' then .strongEscaped else if c = '\'' then .plain else .strong
  | .strongEscaped, _ => .strong
  | .weak, c => if c = '\\' then .weakEscaped else if c = '"' then .plain else .weak
  | .weakEscaped, _ => .weak

end Quoting

/-- How the scan of a line ends. `kept` is the line before a comment. -/
inductive Ending where
  | reached (quoting : Quoting)
  | comment (kept : List Char)
deriving DecidableEq, Repr

/-- `before` is what has been scanned, last character first. -/
def scan (quoting : Quoting) (before : List Char) : List Char → Ending
  | [] => .reached quoting
  | c :: rest =>
    if quoting = .gap && c = '#' then .comment before.reverse
    else scan (quoting.next c) (c :: before) rest

def isComment (cs : List Char) : Bool := (cs.dropWhile Text.isBlankChar).head? = some '#'

/-- Drops a line feed at the end, and a carriage return before it. -/
def chomp (cs : List Char) : List Char :=
  match cs.reverse with
  | '\n' :: '\r' :: rest => rest.reverse
  | '\n' :: rest => rest.reverse
  | _ => cs

/-- Puts the parts of each line together. `started` is the line so far. Nothing stands for a line
that the text leaves unfinished. -/
def join (quoting : Quoting) (started : List Char) :
    List (List Char) → List (Option (List Char))
  | [] => if quoting = .plain then [] else [none]
  | part :: rest =>
    if isComment (started ++ part) then some [] :: join .plain [] rest
    else
      match scan quoting [] part with
      | .comment kept => some (started ++ kept) :: join .plain [] rest
      | .reached .plain => some (chomp (started ++ part)) :: join .plain [] rest
      | .reached quoting => join quoting (started ++ part) rest

/-- Cuts after every line feed. -/
def cutLines (bytes : List UInt8) : List (List UInt8) :=
  let cut := bytes.foldr
    (fun byte (lines : List (List UInt8)) =>
      if byte = 10 then [byte] :: lines
      else match lines with
        | [] => [[byte]]
        | line :: lines =>
          (byte :: line) :: lines)
    [[]]
  cut.filter (!·.isEmpty)

/-- Lines up to the first that is no text. -/
def readable : List (List UInt8) → List (List Char)
  | [] => []
  | line :: rest =>
    match String.fromUTF8? ⟨line.toArray⟩ with
    | none => []
    | some text => text.toList :: readable rest

/-- A byte order mark at the start is passed over. -/
def withoutMark : List UInt8 → List UInt8
  | 0xEF :: 0xBB :: 0xBF :: rest => rest
  | bytes => bytes

def lines (bytes : List UInt8) : List (Option (List Char)) :=
  join .plain [] (readable (cutLines (withoutMark bytes)))

end GatedStartup.CommandLine.VariableFile
