import GatedStartup.Failure

/-! A directory of named components, looked up by their type. A component is found when it is the
only one of its type; several make the look-up ambiguous. -/
namespace GatedStartup

/-- Components `α`, each with a type from `τ`. -/
class Typed (α : Type) (τ : outParam Type) where
  typeOf : α → τ

structure Directory (τ α : Type) where
  /-- Type, name and component, in order of registration. -/
  entries : List (τ × String × α)
deriving DecidableEq, Repr

namespace Directory

variable {τ α : Type} [DecidableEq τ] [Typed α τ]

def empty : Directory τ α := ⟨[]⟩

/-- The entries of a type, oldest first. -/
def shelf (d : Directory τ α) (type : τ) : List (String × α) :=
  (d.entries.filter fun entry => entry.1 = type).map (·.2)

/-- Replaces the component of the same type and name, and comes last. -/
def register (d : Directory τ α) (name : String) (component : α) : Directory τ α :=
  let type := Typed.typeOf component
  ⟨d.entries.filter (fun entry => !(entry.1 = type && entry.2.1 = name)) ++
    [(type, name, component)]⟩

def names (d : Directory τ α) (type : τ) : List String := (d.shelf type).map (·.1)

/-- `title` is the name of the type in messages. -/
def lookup (d : Directory τ α) (title : τ → String) (type : τ) : Except LookupError (Option α) :=
  match d.shelf type with
  | [] => .ok none
  | [(_, component)] =>
    if Typed.typeOf component = type then .ok (some component)
    else .error (.typeMismatch (title type))
  | _ => .error (.ambiguous (title type))

end Directory
end GatedStartup
