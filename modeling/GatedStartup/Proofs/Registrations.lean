import GatedStartup.Directory
import Mathlib.Data.List.Basic
import Mathlib.Data.List.Induction

/-! What a directory answers after any registrations. The names of a type are kept in the order in
which they were last registered, each with its last component, and a look-up finds a component when
its type has one name. What was registered of other types never matters. -/
namespace GatedStartup.Directory

variable {τ α : Type} [Typed α τ]

/-- A component, and the name it is registered under. -/
structure Registration (α : Type) where
  name : String
  component : α

def Registration.type (r : Registration α) : τ := Typed.typeOf r.component

variable {past : List (Registration α)} {r : Registration α} {type : τ} {name other : String}
  {component : α}

/-- Something was registered of the type under the name. -/
def Used (past : List (Registration α)) (type : τ) (name : String) : Prop :=
  ∃ r ∈ past, r.type = type ∧ r.name = name

/-- The component is the last that was registered of the type under the name. -/
def Latest (past : List (Registration α)) (type : τ) (name : String) (component : α) : Prop :=
  Typed.typeOf component = type ∧
    ∃ earlier later, past = earlier ++ ⟨name, component⟩ :: later ∧ ¬ Used later type name

/-- The other name was registered again after the last time that the name was. -/
def Outlasts (past : List (Registration α)) (type : τ) (name other : String) : Prop :=
  ∃ earlier later, past = earlier ++ later ∧ ¬ Used later type name ∧ Used later type other

theorem not_used_nil : ¬ Used ([] : List (Registration α)) type name := by
  simp [Used]

theorem used_concat :
    Used (past ++ [r]) type name ↔ Used past type name ∨ r.type = type ∧ r.name = name := by
  simp [Used, or_and_right, exists_or]

theorem exists_latest (used : Used past type name) : ∃ component, Latest past type name component := by
  induction past using List.reverseRecOn with
  | nil => exact absurd used not_used_nil
  | append_singleton past r ih =>
    by_cases again : r.type = type ∧ r.name = name
    · obtain ⟨of, rfl⟩ := again
      exact ⟨r.component, of, past, [], rfl, not_used_nil⟩
    · obtain ⟨component, of, earlier, later, rfl, unused⟩ :=
        ih ((used_concat.mp used).resolve_right again)
      refine ⟨component, of, earlier, later ++ [r], by simp, fun used => ?_⟩
      exact (used_concat.mp used).elim unused again

theorem Latest.used (latest : Latest past type name component) : Used past type name := by
  obtain ⟨of, earlier, later, rfl, -⟩ := latest
  exact ⟨⟨name, component⟩, by simp, of, rfl⟩

/-- The last registration decides about its own name. -/
theorem latest_concat_self :
    Latest (past ++ [r]) r.type r.name component ↔ component = r.component := by
  constructor
  · rintro ⟨-, earlier, later, whole, unused⟩
    obtain rfl | ⟨later, last, rfl⟩ := later.eq_nil_or_concat'
    · exact (congrArg Registration.component (List.append_singleton_inj.mp whole).2).symm
    · rw [← List.cons_append, ← List.append_assoc] at whole
      obtain ⟨-, rfl⟩ := List.append_singleton_inj.mp whole
      exact absurd (used_concat.mpr (.inr ⟨rfl, rfl⟩)) unused
  · rintro rfl
    exact ⟨rfl, past, [], rfl, not_used_nil⟩

theorem latest_concat (another : ¬ (r.type = type ∧ r.name = name)) :
    Latest (past ++ [r]) type name component ↔ Latest past type name component := by
  constructor
  · rintro ⟨of, earlier, later, whole, unused⟩
    obtain rfl | ⟨later, last, rfl⟩ := later.eq_nil_or_concat'
    · obtain ⟨-, rfl⟩ := List.append_singleton_inj.mp whole
      exact absurd ⟨of, rfl⟩ another
    · rw [← List.cons_append, ← List.append_assoc] at whole
      obtain ⟨rfl, rfl⟩ := List.append_singleton_inj.mp whole
      exact ⟨of, earlier, later, rfl, fun used => unused (used_concat.mpr (.inl used))⟩
  · rintro ⟨of, earlier, later, rfl, unused⟩
    refine ⟨of, earlier, later ++ [r], by simp, fun used => ?_⟩
    exact (used_concat.mp used).elim unused another

theorem Outlasts.concat (outlasts : Outlasts past type name other)
    (another : ¬ (r.type = type ∧ r.name = name)) : Outlasts (past ++ [r]) type name other := by
  obtain ⟨earlier, later, rfl, unused, used⟩ := outlasts
  refine ⟨earlier, later ++ [r], by simp, fun again => ?_, used_concat.mpr (.inl used)⟩
  exact (used_concat.mp again).elim unused another

/-- The entries of a type after the registrations. -/
structure Records (past : List (Registration α)) (type : τ) (shelf : List (String × α)) : Prop where
  distinct : (shelf.map (·.1)).Nodup
  latest : ∀ name component, (name, component) ∈ shelf ↔ Latest past type name component
  ordered : (shelf.map (·.1)).Pairwise (Outlasts past type)

namespace Records

variable {shelf : List (String × α)}

theorem used (records : Records past type shelf) :
    name ∈ shelf.map (·.1) ↔ Used past type name := by
  rw [List.mem_map]
  constructor
  · rintro ⟨⟨name, component⟩, member, rfl⟩
    exact ((records.latest name component).mp member).used
  · intro used
    obtain ⟨component, latest⟩ := exists_latest used
    exact ⟨(name, component), (records.latest name component).mpr latest, rfl⟩

/-- What had the name goes, and the new entry comes last. -/
theorem same_type (records : Records past r.type shelf) :
    Records (past ++ [r]) r.type
      (shelf.filter (fun entry => entry.1 ≠ r.name) ++ [(r.name, r.component)]) := by
  have kept : ∀ name ∈ (shelf.filter (fun entry => entry.1 ≠ r.name)).map (·.1), name ≠ r.name := by
    intro name member
    obtain ⟨entry, there, rfl⟩ := List.mem_map.mp member
    simpa using (List.mem_filter.mp there).2
  have fewer : ((shelf.filter (fun entry => entry.1 ≠ r.name)).map (·.1)).Sublist
      (shelf.map (·.1)) := List.filter_sublist.map _
  constructor
  case distinct =>
    rw [List.map_append, List.nodup_append]
    refine ⟨fewer.nodup records.distinct, by simp, fun name member last lies => ?_⟩
    rw [List.mem_singleton.mp lies]
    exact kept name member
  case latest =>
    intro name component
    rw [List.mem_append, List.mem_filter, records.latest]
    by_cases named : name = r.name
    · subst named
      simp [latest_concat_self]
    · rw [latest_concat fun again => named again.2.symm]
      simp [named]
  case ordered =>
    rw [List.map_append, List.pairwise_append]
    refine ⟨?_, by simp, fun name member last lies => ?_⟩
    · refine (records.ordered.sublist fewer).imp_of_mem fun member _ outlasts => ?_
      exact outlasts.concat fun again => kept _ member again.2.symm
    · rw [List.mem_singleton.mp lies]
      refine ⟨past, [r], rfl, ?_, r, by simp, rfl, rfl⟩
      rintro ⟨r', only, -, again⟩
      rw [List.mem_singleton.mp only] at again
      exact kept name member again.symm

theorem other_type (records : Records past type shelf) (elsewhere : r.type ≠ type) :
    Records (past ++ [r]) type shelf where
  distinct := records.distinct
  latest name component := by
    rw [records.latest, latest_concat fun again => elsewhere again.1]
  ordered := records.ordered.imp fun outlasts => outlasts.concat fun again => elsewhere again.1

end Records

/-- What a look-up finds, by what was registered of the type. -/
structure Decided (past : List (Registration α)) (title : τ → String) (type : τ)
    (found : Except LookupError (Option α)) : Prop where
  missed : found = .ok none ↔ ∀ r ∈ past, r.type ≠ type
  /-- One name was used, and the component is the last that was registered under it. -/
  single : ∀ component, found = .ok (some component) ↔
    ∃ name, Latest past type name component ∧ ∀ other, Used past type other → other = name
  ambiguous : found = .error (.ambiguous (title type)) ↔
    ∃ name other, Used past type name ∧ Used past type other ∧ name ≠ other
  /-- It fails in no other way. -/
  failed : ∀ error, found = .error error → error = .ambiguous (title type)

namespace Records

variable {title : τ → String}

theorem decided_of_nil (records : Records past type []) : Decided past title type (.ok none) := by
  have unused : ∀ name, ¬ Used past type name := fun name used => by
    simpa using records.used.mpr used
  constructor
  case missed => exact iff_of_true rfl fun r member of => unused r.name ⟨r, member, of, rfl⟩
  case single =>
    refine fun component => iff_of_false nofun ?_
    rintro ⟨name, latest, -⟩
    exact unused name latest.used
  case ambiguous =>
    refine iff_of_false nofun ?_
    rintro ⟨name, -, used, -⟩
    exact unused name used
  case failed => nofun

theorem decided_of_single (records : Records past type [(name, component)]) :
    Decided past title type (.ok (some component)) := by
  have used : ∀ other, Used past type other ↔ other = name := fun other => by
    simp [← records.used]
  have latest : ∀ other, Latest past type name other ↔ other = component := fun other => by
    simp [← records.latest]
  constructor
  case missed =>
    refine iff_of_false nofun fun never => ?_
    obtain ⟨r, member, of, -⟩ := (used name).mpr rfl
    exact never r member of
  case single =>
    intro found
    constructor
    · rintro ⟨⟩
      exact ⟨name, (latest component).mpr rfl, fun other => (used other).mp⟩
    · rintro ⟨other, last, -⟩
      obtain rfl := (used other).mp last.used
      rw [(latest found).mp last]
  case ambiguous =>
    refine iff_of_false nofun ?_
    rintro ⟨first, second, usedFirst, usedSecond, apart⟩
    exact apart (((used first).mp usedFirst).trans ((used second).mp usedSecond).symm)
  case failed => nofun

theorem decided_of_several {first second : String × α} {rest : List (String × α)}
    (records : Records past type (first :: second :: rest)) :
    Decided past title type (.error (.ambiguous (title type))) := by
  have usedFirst : Used past type first.1 := records.used.mp (by simp)
  have usedSecond : Used past type second.1 := records.used.mp (by simp)
  have apart : first.1 ≠ second.1 := by
    have distinct := records.distinct
    rw [List.map_cons, List.map_cons, List.nodup_cons] at distinct
    exact fun same => distinct.1 (by simp [same])
  constructor
  case missed =>
    refine iff_of_false nofun fun never => ?_
    obtain ⟨r, member, of, -⟩ := usedFirst
    exact never r member of
  case single =>
    refine fun component => iff_of_false nofun ?_
    rintro ⟨name, -, only⟩
    exact apart ((only _ usedFirst).trans (only _ usedSecond).symm)
  case ambiguous => exact iff_of_true rfl ⟨_, _, usedFirst, usedSecond, apart⟩
  case failed =>
    rintro error ⟨⟩
    rfl

end Records

variable [DecidableEq τ]

/-- The directory after the registrations, oldest first. -/
def ofRegistrations (past : List (Registration α)) : Directory τ α :=
  past.foldl (fun d r => d.register r.name r.component) empty

theorem ofRegistrations_concat (past : List (Registration α)) (r : Registration α) :
    ofRegistrations (past ++ [r]) = (ofRegistrations past).register r.name r.component := by
  simp [ofRegistrations]

theorem shelf_register_self (d : Directory τ α) (r : Registration α) :
    (d.register r.name r.component).shelf r.type =
      (d.shelf r.type).filter (fun entry => entry.1 ≠ r.name) ++ [(r.name, r.component)] := by
  simp only [shelf, register, Registration.type, List.filter_append, List.filter_filter,
    List.map_append, List.filter_map]
  congr 2
  · apply List.filter_congr
    intro entry _
    by_cases of : entry.1 = Typed.typeOf r.component <;> simp [of]
  · simp

/-- A registration touches the entries of its own type only. -/
theorem shelf_register (d : Directory τ α) (elsewhere : r.type ≠ type) :
    (d.register r.name r.component).shelf type = d.shelf type := by
  have apart : ¬ Typed.typeOf r.component = type := elsewhere
  simp only [shelf, register, List.filter_append, List.filter_filter, List.filter_cons, apart,
    decide_false, Bool.false_eq_true, if_false, List.filter_nil, List.append_nil]
  congr 1
  apply List.filter_congr
  intro entry _
  by_cases of : entry.1 = type
  · simp [of, Ne.symm apart]
  · simp [of]

theorem shelf_ofRegistrations (past : List (Registration α)) (type : τ) :
    Records past type ((ofRegistrations past).shelf type) := by
  induction past using List.reverseRecOn with
  | nil => exact ⟨.nil, by simp [ofRegistrations, shelf, empty, Latest], .nil⟩
  | append_singleton past r records =>
    rw [ofRegistrations_concat]
    by_cases of : r.type = type
    · subst of
      rw [shelf_register_self]
      exact records.same_type
    · rw [shelf_register _ of]
      exact records.other_type of

/-- What was registered of other types may as well not have been. -/
theorem shelf_filter (past : List (Registration α)) (type : τ) :
    (ofRegistrations (past.filter fun r => r.type = type)).shelf type =
      (ofRegistrations past).shelf type := by
  induction past using List.reverseRecOn with
  | nil => rfl
  | append_singleton past r ih =>
    rw [List.filter_append, ofRegistrations_concat]
    by_cases of : r.type = type
    · subst of
      rw [shelf_register_self, ← ih]
      simp [ofRegistrations_concat, shelf_register_self]
    · rw [shelf_register _ of, ← ih]
      simp [of]

theorem Records.decided_lookup {d : Directory τ α} {title : τ → String}
    (records : Records past type (d.shelf type)) :
    Decided past title type (d.lookup title type) := by
  rw [lookup]
  generalize d.shelf type = shelf at records
  rcases shelf with _ | ⟨⟨name, component⟩, _ | ⟨second, rest⟩⟩
  · exact records.decided_of_nil
  · have of : Typed.typeOf component = type := ((records.latest name component).mp (by simp)).1
    simp only [of, if_true]
    exact records.decided_of_single
  · exact records.decided_of_several

/-- The answers for a type after the registrations. -/
structure Answers (past : List (Registration α)) (title : τ → String) (type : τ) : Prop where
  /-- Every name that was used for the type, once. -/
  distinct : ((ofRegistrations past).names type).Nodup
  used : ∀ name, name ∈ (ofRegistrations past).names type ↔ Used past type name
  /-- In the order in which they were last registered. -/
  ordered : ((ofRegistrations past).names type).Pairwise (Outlasts past type)
  decided : Decided past title type ((ofRegistrations past).lookup title type)
  /-- Only the registrations of the type count. -/
  apart : ∀ past' : List (Registration α),
    past'.filter (fun r => r.type = type) = past.filter (fun r => r.type = type) →
      (ofRegistrations past').names type = (ofRegistrations past).names type ∧
      (ofRegistrations past').lookup title type = (ofRegistrations past).lookup title type

theorem registrations_answered (past : List (Registration α)) (title : τ → String) (type : τ) :
    Answers past title type := by
  have records := shelf_ofRegistrations past type
  constructor
  case distinct => exact records.distinct
  case used => exact fun name => records.used
  case ordered => exact records.ordered
  case decided => exact records.decided_lookup
  case apart =>
    intro past' same
    have shelf_eq : (ofRegistrations past').shelf type = (ofRegistrations past).shelf type := by
      rw [← shelf_filter past', same, shelf_filter]
    rw [names, names, lookup, lookup, shelf_eq]
    exact ⟨rfl, rfl⟩

end GatedStartup.Directory
