/-! The variables of a process, each a text `NAME=value`. A variable is asked for by the text
before an equals sign. The sign may be one of the value, so `A=b` finds `c` in `A=b=c`. -/
namespace GatedStartup.CommandLine

structure Environment where
  /-- Name and value of each variable. The first one found counts. -/
  entries : List (String × String)
deriving DecidableEq, Repr

namespace Environment

def empty : Environment := ⟨[]⟩

/-- What an entry holds behind the name asked for and an equals sign. -/
def behind? (name : String) (entry : String × String) : Option String :=
  ((name.toList ++ ['=']).isPrefixOf? (entry.1.toList ++ '=' :: entry.2.toList)).map String.ofList

def get? (e : Environment) (name : String) : Option String := e.entries.findSome? (behind? name)

/-- Adds a variable that is not there yet. -/
def add (e : Environment) (name value : String) : Environment := ⟨e.entries ++ [(name, value)]⟩

@[simp] theorem get?_empty (name : String) : empty.get? name = none := rfl

theorem isPrefixOf?_append (xs ys : List Char) : xs.isPrefixOf? (xs ++ ys) = some ys := by
  induction xs with
  | nil => rfl
  | cons x xs ih => exact (if_pos (beq_self_eq_true x)).trans ih

theorem behind?_self (name value : String) : behind? name (name, value) = some value := by
  have h := isPrefixOf?_append (name.toList ++ ['=']) value.toList
  simp only [List.append_assoc, List.cons_append, List.nil_append] at h
  simp [behind?, h]

theorem get?_add {e : Environment} {name value : String} (h : e.get? name = none) :
    (e.add name value).get? name = some value := by
  simp only [get?] at h
  simp [get?, add, List.findSome?_append, h, behind?_self]

theorem get?_add_of_isSome {e : Environment} {name value asked : String}
    (h : (e.get? asked).isSome) : (e.add name value).get? asked = e.get? asked := by
  obtain ⟨found, h⟩ := Option.isSome_iff_exists.1 h
  simp only [get?] at h
  simp [get?, add, List.findSome?_append, h]

end Environment
end GatedStartup.CommandLine
