import GatedStartup.Json.Reading
import GatedStartup.Proofs.Preliminaries
import GatedStartup.Proofs.TidyNames

/-! Records by their fields. An object that repeats no member reads as the record whose every field
is what the member of its name reads as, or the default when there is no such member. The order of
the members does not count, and neither do members that belong to no field. -/
namespace GatedStartup.Json

variable {α ρ : Type}

/-- A field of a record: the member it is read from, what stands there when the member is left out,
and the place in the record. -/
structure RecordField (ρ : Type) where
  {α : Type}
  name : String
  read : Reader α
  /-- Nothing when the member must be there. -/
  default : Option α
  get : ρ → α
  put : α → ρ → ρ

namespace RecordField

variable {parts : List (Literal × Value)}

def member (f : RecordField ρ) : Member ρ :=
  ⟨f.name, f.default.isNone, fun v => (f.read v).map f.put⟩

/-- The record has in the field what the parts give it. -/
def Given (f : RecordField ρ) (parts : List (Literal × Value)) (record : ρ) : Prop :=
  match parts.lookup (some f.name) with
  | none => f.default = some (f.get record)
  | some v => f.read v = .ok (f.get record)

/-- What reading the parts makes of the field of a record they are read into. -/
def Becomes (f : RecordField ρ) (parts : List (Literal × Value)) (before after : ρ) : Prop :=
  match parts.lookup (some f.name) with
  | none => f.get after = f.get before
  | some v => f.read v = .ok (f.get after)

theorem becomes_of_absent {f : RecordField ρ} {before after : ρ}
    (absent : some f.name ∉ parts.map (·.1)) :
    f.Becomes parts before after ↔ f.get after = f.get before := by
  rw [Becomes, Pairs.lookup_eq_none.mpr absent]

theorem becomes_cons_self {f : RecordField ρ} {v : Value} {before after : ρ} :
    f.Becomes ((some f.name, v) :: parts) before after ↔ f.read v = .ok (f.get after) := by
  rw [Becomes, List.lookup_cons_self]

theorem becomes_cons_of_ne {f : RecordField ρ} {name : String} {v : Value} {before after : ρ}
    (other : f.name ≠ name) :
    f.Becomes ((some name, v) :: parts) before after ↔ f.Becomes parts before after := by
  have skipped : List.lookup (some f.name) ((some name, v) :: parts) =
      parts.lookup (some f.name) := by
    rw [List.lookup_cons, beq_false_of_ne (mt Option.some.inj other)]
  rw [Becomes, skipped, Becomes]

/-- A field takes its default from the vacant record, unless its member is required. -/
theorem given_iff_becomes {f : RecordField ρ} {vacant : ρ}
    (left : ∀ x, f.default = some x → f.get vacant = x) (record : ρ) :
    f.Given parts record ↔ f.Becomes parts vacant record ∧
      (f.default.isNone = true → some f.name ∈ parts.map (·.1)) := by
  rw [Given, Becomes]
  cases found : parts.lookup (some f.name) with
  | none =>
    have absent := Pairs.lookup_eq_none.mp found
    cases default : f.default with
    | none => simp [absent]
    | some x => simp [left x default, eq_comm]
  | some v =>
    have present : some f.name ∈ parts.map (·.1) :=
      List.mem_map.mpr ⟨_, Pairs.mem_of_lookup found, rfl⟩
    simp [present]

end RecordField

/-- For a record that is made up of its fields. -/
def NoRest (_ : ρ) : Prop := True

namespace Shape

/-- The members of the shape are those of the fields. The fields are independent places, and make up
the record together with the `rest`, which no member changes. -/
structure Consists (shape : Shape ρ) (fields : List (RecordField ρ)) (rest : ρ → Prop) : Prop where
  members : shape.members = fields.map RecordField.member
  distinct : (fields.map (·.name)).Nodup
  puts : ∀ f ∈ fields, ∀ x r, f.get (f.put x r) = x
  keeps : ∀ f ∈ fields, ∀ g ∈ fields, f.name ≠ g.name → ∀ x r, f.get (g.put x r) = f.get r
  vacant : ∀ f ∈ fields, ∀ x, f.default = some x → f.get shape.vacant = x
  rest_vacant : rest shape.vacant
  rest_put : ∀ f ∈ fields, ∀ x r, rest r → rest (f.put x r)
  ext : ∀ r r', rest r → rest r' → (∀ f ∈ fields, f.get r = f.get r') → r = r'

variable {shape : Shape ρ} {fields : List (RecordField ρ)} {rest : ρ → Prop}
  {parts : List (Literal × Value)} {start record : ρ} {seen seen' : List String}

namespace Consists

theorem eq_of_name (consists : shape.Consists fields rest) {f g : RecordField ρ}
    (inside : f ∈ fields) (inside' : g ∈ fields) (same : f.name = g.name) : f = g :=
  List.inj_on_of_nodup_map consists.distinct inside inside' same

theorem field_of_member? (consists : shape.Consists fields rest) {name : String} {m : Member ρ}
    (known : shape.member? name = some m) : ∃ f ∈ fields, f.member = m ∧ f.name = name := by
  have inside := List.mem_of_find?_eq_some known
  rw [consists.members, List.mem_map] at inside
  obtain ⟨f, inside, rfl⟩ := inside
  exact ⟨f, inside, rfl, by simpa [RecordField.member] using List.find?_some known⟩

theorem member?_eq_none (consists : shape.Consists fields rest) {name : String} :
    shape.member? name = none ↔ ∀ f ∈ fields, f.name ≠ name := by
  simp [member?, consists.members, RecordField.member]

/-- Members that are read each give their field, and the others keep theirs. -/
theorem readMembers_iff (consists : shape.Consists fields rest)
    (readable : none ∉ parts.map (·.1)) (distinct : (parts.map (·.1)).Nodup)
    (fresh : ∀ name ∈ seen, some name ∉ parts.map (·.1)) (before : rest start) :
    (∃ seen', shape.readMembers seen start parts = .ok (seen', record)) ↔
      rest record ∧ ∀ f ∈ fields, f.Becomes parts start record := by
  fun_induction readMembers shape seen start parts with
  | case1 seen start =>
    constructor
    · rintro ⟨seen', read⟩
      obtain ⟨-, rfl⟩ := Prod.mk.inj (Except.ok.inj read)
      exact ⟨before, fun f _ => rfl⟩
    · rintro ⟨after, becomes⟩
      exact ⟨seen, by rw [consists.ext record start after before becomes]⟩
  | case2 => simp at readable
  | case3 seen start name v others unknown ih =>
    rw [List.map_cons, List.nodup_cons] at distinct
    rw [ih (by simp_all) distinct.2 (by simp_all) before]
    refine and_congr_right fun _ => forall₂_congr fun f inside => ?_
    rw [RecordField.becomes_cons_of_ne (consists.member?_eq_none.mp unknown f inside)]
  | case4 seen start name v others m known repeated =>
    exact absurd (List.mem_cons_self) (fresh name (by simpa using repeated))
  | case5 seen start name v others m known unseen fault fails =>
    obtain ⟨f, inside, rfl, rfl⟩ := consists.field_of_member? known
    refine iff_of_false (by simp) ?_
    rintro ⟨-, becomes⟩
    have reads := RecordField.becomes_cons_self.mp (becomes f inside)
    simp [RecordField.member, reads, Except.map] at fails
  | case6 seen start name v others m known unseen change changes ih =>
    obtain ⟨f, inside, rfl, rfl⟩ := consists.field_of_member? known
    obtain ⟨x, reads, rfl⟩ := Results.map_eq_ok.mp changes
    rw [List.map_cons, List.nodup_cons] at distinct
    rw [ih (by simp_all) distinct.2 (by simp_all) (consists.rest_put f inside x start before)]
    refine and_congr_right fun _ => forall₂_congr fun g inside' => ?_
    by_cases same : g.name = f.name
    · obtain rfl := consists.eq_of_name inside' inside same
      rw [RecordField.becomes_of_absent distinct.1, RecordField.becomes_cons_self,
        consists.puts g inside, reads]
      exact ⟨fun kept => by rw [kept], fun kept => (Except.ok.inj kept).symm⟩
    · have kept := consists.keeps g inside' f inside same x start
      rw [RecordField.becomes_cons_of_ne same, RecordField.Becomes, kept, RecordField.Becomes]

theorem mem_seen (consists : shape.Consists fields rest)
    (read : shape.readMembers seen start parts = .ok (seen', record)) {f : RecordField ρ}
    (inside : f ∈ fields) :
    f.name ∈ seen' ↔ f.name ∈ seen ∨ some f.name ∈ parts.map (·.1) := by
  fun_induction readMembers shape seen start parts with
  | case1 =>
    obtain ⟨rfl, -⟩ := Prod.mk.inj (Except.ok.inj read)
    simp
  | case3 seen start name v others unknown ih =>
    have other := consists.member?_eq_none.mp unknown f inside
    simp [ih read, other]
  | case6 seen start name v others m known unseen change changes ih =>
    rw [ih read, List.map_cons, List.mem_cons, List.mem_cons, Option.some_inj, or_left_comm,
      or_assoc]
  | _ => simp at read

theorem missing?_eq_none (consists : shape.Consists fields rest) :
    shape.missing? seen = none ↔ ∀ f ∈ fields, f.default.isNone = true → f.name ∈ seen := by
  simp [missing?, consists.members, RecordField.member, -List.contains_eq_mem,
    List.contains_iff_mem]

/-- An object without repeated members reads as the record its members give, field by field. -/
theorem readObject_iff (consists : shape.Consists fields rest)
    (readable : none ∉ parts.map (·.1)) (distinct : (parts.map (·.1)).Nodup) :
    shape.readObject parts true = .ok record ↔
      rest record ∧ ∀ f ∈ fields, f.Given parts record := by
  have members : (∃ seen', shape.readMembers [] shape.vacant parts = .ok (seen', record)) ↔
      rest record ∧ ∀ f ∈ fields, f.Becomes parts shape.vacant record :=
    consists.readMembers_iff readable distinct (List.forall_mem_nil _) consists.rest_vacant
  rw [forall₂_congr fun f inside => f.given_iff_becomes (consists.vacant f inside) record]
  rw [forall₂_and, ← and_assoc, ← members, readObject]
  cases read : shape.readMembers [] shape.vacant parts with
  | error fault => simp
  | ok found =>
    obtain ⟨seen, found⟩ := found
    have required : shape.missing? seen = none ↔
        ∀ f ∈ fields, f.default.isNone = true → some f.name ∈ parts.map (·.1) := by
      rw [consists.missing?_eq_none]
      refine forall₂_congr fun f inside => ?_
      simp [consists.mem_seen read inside]
    rw [← required]
    cases missing : shape.missing? seen <;> simp [missing]

theorem read_iff (consists : shape.Consists fields NoRest)
    (readable : none ∉ parts.map (·.1)) (distinct : (parts.map (·.1)).Nodup) :
    shape.read (.object parts true) = .ok record ↔ ∀ f ∈ fields, f.Given parts record := by
  rw [read, consists.readObject_iff readable distinct]
  exact and_iff_right trivial

end Consists

theorem readObject_open (shape : Shape ρ) (parts : List (Literal × Value)) :
    shape.readObject parts false ≠ .ok record := by
  rw [readObject]
  cases shape.readMembers [] shape.vacant parts <;> simp

end Shape
end GatedStartup.Json
