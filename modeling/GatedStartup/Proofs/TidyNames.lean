import GatedStartup.Proofs.Preliminaries
import GatedStartup.Proofs.Trimming
import GatedStartup.Security.Attributes

/-! Where names of classes come from. Whatever is read or made, a reference is unset or keeps a name
that has text and no white space around it. -/
namespace GatedStartup

namespace Json.Shape

variable {ρ : Type} {shape : Shape ρ} {holds : ρ → Prop} {v : Value} {record record' : ρ}

/-- None of the members breaks what holds. -/
def Keeps (members : List (Member ρ)) (holds : ρ → Prop) : Prop :=
  ∀ m ∈ members, ∀ v change, m.read v = .ok change → ∀ record, holds record → holds (change record)

theorem Keeps.readMembers {parts : List (Literal × Value)} {seen seen' : List String}
    (keeps : Keeps shape.members holds) (before : holds record)
    (read : shape.readMembers seen record parts = .ok (seen', record')) : holds record' := by
  fun_induction Shape.readMembers shape seen record parts with
  | case1 =>
    obtain ⟨-, rfl⟩ := Prod.mk.inj (Except.ok.inj read)
    exact before
  | case3 seen record name v rest unknown ih => exact ih before read
  | case6 seen record name v rest m known fresh change changes ih =>
    exact ih (keeps m (List.mem_of_find?_eq_some known) v change changes record before) read
  | _ => nomatch read

theorem Keeps.readPositions {total position : Nat} {closed : Bool} {members : List (Member ρ)}
    {items : List Value} (keeps : Keeps members holds) (before : holds record)
    (read : shape.readPositions total closed record position members items = .ok record') :
    holds record' := by
  fun_induction Shape.readPositions shape total closed record position members items with
  | case1 =>
    obtain rfl := Except.ok.inj read
    exact before
  | case6 record position m ms _ _ ih =>
    exact ih (fun other member => keeps other (List.mem_cons_of_mem m member)) before read
  | case8 record position m ms v vs change changes ih =>
    exact ih (fun other member => keeps other (List.mem_cons_of_mem m member))
      (keeps m List.mem_cons_self v change changes record before) read
  | _ => nomatch read

/-- What holds with every member left out, and is broken by none of them, holds of what is read. -/
theorem Keeps.read (keeps : Keeps shape.members holds) (vacant : holds shape.vacant)
    (read : shape.read v = .ok record) : holds record := by
  cases v with
  | object parts closed =>
    rw [Shape.read, readObject] at read
    cases members : shape.readMembers [] shape.vacant parts with
    | error fault => simp [members] at read
    | ok found =>
      obtain ⟨seen, found⟩ := found
      simp only [members] at read
      split at read
      · nomatch read
      · split at read
        · nomatch read
        · obtain rfl := Except.ok.inj read
          exact keeps.readMembers vacant members
  | array items closed => exact keeps.readPositions vacant read
  | _ => nomatch read

end Json.Shape

namespace ClassName

/-- Unset, or a name with text and no white space around it. -/
def Tidy (c : ClassName) : Prop :=
  ∀ name, c.name? = some name → Text.isBlank name = false ∧ Text.trim name = name

theorem tidy_unset : unset.Tidy := by
  intro name named
  nomatch named

theorem tidy_ofOption (given : Option String) : (ofOption given).Tidy := by
  intro name named
  rcases given with _ | given
  · nomatch named
  · cases trimmed : Text.trimmed? given with
    | none => simp [ofOption, trimmed, name?] at named
    | some kept =>
      obtain rfl : kept = name := by simpa [ofOption, trimmed, name?] using named
      exact Text.trimmed?_eq_some.mp (Text.trimmed?_trimmed? trimmed)

theorem tidy_read {v : Json.Value} {c : ClassName} (read : ClassName.read v = .ok c) : c.Tidy := by
  rw [ClassName.read] at read
  obtain ⟨given, -, rfl⟩ := Results.map_eq_ok.mp read
  exact tidy_ofOption given

end ClassName

namespace Attributes

structure Tidy (a : Attributes) : Prop where
  manager : a.managerClass.Tidy
  postProcessor : a.postProcessorClass.Tidy

/-- The members that are no references leave them alone. -/
theorem keeps_tidy : Json.Shape.Keeps shape.members Tidy := by
  intro m member v change reads a tidy
  simp only [shape, List.mem_cons, List.not_mem_nil, or_false] at member
  rcases member with rfl | rfl | rfl | rfl | rfl | rfl | rfl
  all_goals obtain ⟨x, found, rfl⟩ := Results.map_eq_ok.mp reads
  · exact ⟨tidy.manager, tidy.postProcessor⟩
  · exact ⟨tidy.manager, tidy.postProcessor⟩
  · exact ⟨ClassName.tidy_read found, tidy.postProcessor⟩
  · exact ⟨tidy.manager, tidy.postProcessor⟩
  · exact ⟨tidy.manager, ClassName.tidy_read found⟩
  · exact ⟨tidy.manager, tidy.postProcessor⟩
  · exact ⟨tidy.manager, tidy.postProcessor⟩

theorem tidy_of_read {v : Json.Value} {a : Attributes} (found : read v = .ok a) : a.Tidy :=
  keeps_tidy.read ⟨ClassName.tidy_unset, ClassName.tidy_unset⟩ found

end Attributes
end GatedStartup
