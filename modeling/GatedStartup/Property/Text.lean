import GatedStartup.Property.Set
import GatedStartup.Text.Quoted

/-! Property sets as text, a line `key=value` for each pair in order. Backslashes, line ends and
tabs are escaped everywhere, separators and spaces in keys only. A description shows the pairs
between quotes instead. -/
namespace GatedStartup.PropertySet

def escapeChar (inKey : Bool) : Char → List Char
  | '\\' => ['\\', '\\']
  | '\n' => ['\\', 'n']
  | '\r' => ['\\', 'r']
  | '\t' => ['\\', 't']
  | c => if inKey && (c = '=' || c = ':' || c = ' ') then ['\\', c] else [c]

def escape (inKey : Bool) (cs : List Char) : List Char := cs.flatMap (escapeChar inKey)

def line (entry : String × String) : List Char :=
  escape true entry.1.toList ++ '=' :: escape false entry.2.toList ++ ['\n']

def text (p : PropertySet) : String := String.ofList (p.entries.flatMap line)

def describe (p : PropertySet) : String :=
  Text.record "PropertySet"
    [("entries", Text.braced (p.entries.map fun entry =>
      Text.quoted entry.1 ++ ": " ++ Text.quoted entry.2))] false

end GatedStartup.PropertySet
