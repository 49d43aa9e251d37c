import GatedStartup.Proofs.RecordFields

/-! How an index declaration is read. Its members but the component are taken in full before they
are read as an index definition. That makes no difference to what is read: every value a definition
accepts can be taken in full, and the members a definition does not know are dropped either way. -/
namespace GatedStartup

open Json Index

variable {α : Type} {parts : List (Literal × Value)}

namespace Json

/-- Whatever the reader accepts can be taken in full. -/
def AcceptsSound (depth : Nat) (read : Reader α) : Prop :=
  ∀ v x, read v = .ok x → v.sound depth = true

variable {depth : Nat} {read : Reader α}

theorem readString_eq_ok {v : Value} {s : String} :
    readString v = .ok s ↔ v = .string (some s) := by
  constructor
  · intro read
    unfold readString at read
    split at read
    · rw [Except.ok.inj read]
    · nomatch read
  · rintro rfl
    rfl

theorem acceptsSound_readString (depth : Nat) : AcceptsSound depth readString := by
  intro v s read
  rw [readString_eq_ok.mp read, Value.sound]
  rfl

theorem acceptsSound_readBoolean (depth : Nat) : AcceptsSound depth readBoolean := by
  intro v b read
  cases v with
  | boolean => rw [Value.sound]
  | _ => nomatch read

theorem AcceptsSound.map (sound : AcceptsSound depth read) {β : Type} (change : α → β) :
    AcceptsSound depth fun v => (read v).map change := by
  intro v y read
  obtain ⟨x, read, -⟩ := Results.map_eq_ok.mp read
  exact sound v x read

theorem AcceptsSound.readOptional (sound : AcceptsSound depth read) :
    AcceptsSound depth (readOptional read) := by
  intro v x read
  unfold Json.readOptional at read
  split at read
  · rw [Value.sound]
  · exact sound.map some v x read

theorem AcceptsSound.readList (sound : AcceptsSound depth read) :
    AcceptsSound (depth + 1) (readList read) := by
  intro v xs accepted
  cases v with
  | array items closed =>
    obtain ⟨rfl, each⟩ := readList_eq_ok.mp accepted
    have items : soundItems depth items = true := by
      clear accepted
      rw [readItems_eq_ok] at each
      induction each with
      | nil => rw [soundItems]
      | cons first _ ih => rw [soundItems, sound _ _ first, ih, Bool.and_self]
    rw [Value.sound, items, Bool.and_self]
  | _ => nomatch accepted

theorem AcceptsSound.readTable (sound : AcceptsSound depth read) :
    AcceptsSound (depth + 1) (readTable read) := by
  intro v t accepted
  cases v with
  | object parts closed =>
    obtain ⟨rfl, pairs, matched, -⟩ := readTable_eq_ok.mp accepted
    have members : soundMembers depth parts = true := by
      clear accepted
      induction matched with
      | nil => rw [soundMembers]
      | @cons part _ _ _ first _ ih =>
        obtain ⟨name, v⟩ := part
        obtain ⟨rfl, first⟩ := first
        rw [soundMembers, sound v _ first, ih]
        rfl
    rw [Value.sound, members, Bool.and_self]
  | _ => nomatch accepted

end Json

namespace Index.Definition

theorem acceptsSound_recordFields :
    ∀ f ∈ recordFields, AcceptsSound Declaration.depthLeft f.read := by
  simp only [recordFields, List.forall_mem_cons]
  refine ⟨acceptsSound_readString _, (acceptsSound_readString _).readOptional,
    (acceptsSound_readString _).readList, (acceptsSound_readString _).readTable,
    acceptsSound_readBoolean _, List.forall_mem_nil _⟩

end Index.Definition

namespace Declaration

def componentField : RecordField Declaration :=
  ⟨"component", readString, some "", (·.component), fun x d => { d with component := x }⟩

/-- The declaration without its component. -/
def others (parts : List (Literal × Value)) : List (Literal × Value) :=
  parts.filter fun part => part.1 != some "component"

/-- The members that are known, and how deep the others may be nested. -/
def scheme : Scheme :=
  .flat ("component" :: Definition.recordFields.map (·.name)) (some depthLeft)

/-- The component that stands among the members, else the one found before. -/
def componentOr (before : Option String) (parts : List (Literal × Value)) :
    Except Fault (Option String) :=
  match parts.lookup (some "component") with
  | none => .ok before
  | some v => (readString v).map some

theorem gather_component_eq_ok {v : Value} {rest : List (Literal × Value)} {gathered : Gathered} :
    gather none ((some "component", v) :: rest) = .ok gathered ↔
      ∃ s, readString v = .ok s ∧ gather (some s) rest = .ok gathered := by
  rw [gather]
  cases readString v <;> simp [bind, Except.bind]

theorem gather_other_eq_ok {component : Option String} {name : String} {v : Value}
    {rest : List (Literal × Value)} {gathered : Gathered} (other : name ≠ "component") :
    gather component ((some name, v) :: rest) = .ok gathered ↔
      v.sound depthLeft = true ∧ ∃ others, gather component rest = .ok ⟨gathered.component, others⟩ ∧
        gathered.others = (some name, v) :: others := by
  obtain ⟨found, kept⟩ := gathered
  rw [gather, if_neg other]
  split
  · next sound =>
    rcases gather component rest with fault | ⟨found', others⟩
    · simp [bind, Except.bind]
    · simp [sound, bind, Except.bind, pure, Except.pure, and_comm, eq_comm]
  · next unsound => simp [unsound]

/-- What is gathered is the component, if it is a text, and the other members, if they can be taken
in full. -/
theorem gather_eq_ok {component : Option String} {gathered : Gathered}
    (readable : none ∉ parts.map (·.1)) (distinct : (parts.map (·.1)).Nodup)
    (fresh : component ≠ none → some "component" ∉ parts.map (·.1)) :
    gather component parts = .ok gathered ↔
      componentOr component parts = .ok gathered.component ∧ gathered.others = others parts ∧
        ∀ part ∈ others parts, part.2.sound depthLeft = true := by
  induction parts generalizing component gathered with
  | nil =>
    obtain ⟨found, kept⟩ := gathered
    constructor
    · intro none
      cases none
      exact ⟨rfl, rfl, List.forall_mem_nil _⟩
    · rintro ⟨same, rfl, -⟩
      obtain rfl : component = found := Except.ok.inj same
      rfl
  | cons part rest ih =>
    obtain ⟨_ | name, v⟩ := part
    · simp at readable
    rw [List.map_cons, List.nodup_cons] at distinct
    have readable' : none ∉ rest.map (·.1) := by simpa using readable
    by_cases same : name = "component"
    · subst same
      obtain rfl : component = none := by
        by_contra given
        exact fresh given List.mem_cons_self
      have later : ∀ s, componentOr (some s) rest = .ok (some s) := by
        intro s
        rw [componentOr, Pairs.lookup_eq_none.mpr distinct.1]
      have skipped : others ((some "component", v) :: rest) = others rest := by simp [others]
      rw [gather_component_eq_ok, skipped, componentOr, List.lookup_cons_self]
      simp only [ih readable' distinct.2 fun _ => distinct.1, later, Results.map_eq_ok, Except.ok.injEq]
      rw [← exists_and_right]
      simp only [and_assoc]
    · have kept : others ((some name, v) :: rest) = (some name, v) :: others rest := by
        simp [others, same]
      have passed : componentOr component ((some name, v) :: rest) =
          componentOr component rest := by
        rw [componentOr, List.lookup_cons, beq_false_of_ne (mt Option.some.inj (Ne.symm same)),
          componentOr]
      have fresh' := fun given => mt (List.mem_cons_of_mem _) (fresh given)
      rw [gather_other_eq_ok same, kept, passed, List.forall_mem_cons]
      simp only [ih readable' distinct.2 fresh']
      constructor
      · rintro ⟨sound, _, ⟨found, rfl, sounds⟩, gathered⟩
        exact ⟨found, gathered, sound, sounds⟩
      · rintro ⟨found, gathered, sound, sounds⟩
        exact ⟨sound, _, ⟨found, rfl, sounds⟩, gathered⟩

theorem names_others (parts : List (Literal × Value)) :
    ((others parts).map (·.1)).Sublist (parts.map (·.1)) :=
  List.filter_sublist.map _

theorem lookup_others {name : String} (other : name ≠ "component")
    (parts : List (Literal × Value)) :
    (others parts).lookup (some name) = parts.lookup (some name) :=
  Pairs.lookup_filter (· != some "component") (by simpa using other) parts

/-- The component has no part in what the definition reads as. -/
theorem read_others_iff (allowed : scheme.Allows parts) {d : Definition} :
    Definition.read (.object (others parts) true) = .ok d ↔
      d.region = none ∧ ∀ f ∈ Definition.recordFields, f.Given parts d := by
  have readable := fun inside => allowed.readable ((names_others parts).subset inside)
  have distinct := allowed.distinct.sublist (names_others parts)
  have names : ∀ f ∈ Definition.recordFields, f.name ≠ "component" := by
    simp [Definition.recordFields]
  rw [Definition.read, Json.Shape.read, Definition.consists.readObject_iff readable distinct]
  refine and_congr_right fun _ => forall₂_congr fun f inside => ?_
  rw [RecordField.Given, lookup_others (names f inside), RecordField.Given]

/-- What a definition accepts can be taken in full, so only unknown members could fail to be. -/
theorem sound_others (allowed : scheme.Allows parts) {d : Definition}
    (reads : ∀ f ∈ Definition.recordFields, f.Given parts d) :
    ∀ part ∈ others parts, part.2.sound depthLeft = true := by
  rintro ⟨key, v⟩ inside
  obtain ⟨inside, other⟩ := List.mem_filter.mp inside
  cases key with
  | none => exact absurd (List.mem_map.mpr ⟨_, inside, rfl⟩) allowed.readable
  | some name =>
    by_cases known : ∃ f ∈ Definition.recordFields, f.name = name
    · obtain ⟨f, member, rfl⟩ := known
      have given := reads f member
      rw [RecordField.Given, (Pairs.mem_iff_lookup allowed.distinct).mp inside] at given
      exact Definition.acceptsSound_recordFields f member v _ given
    · have unknown : scheme.knows name = false := by
        rw [← Bool.not_eq_true, scheme, Scheme.knows_flat, List.mem_cons, List.mem_map]
        exact not_or.mpr ⟨by simpa using other, known⟩
      exact allowed.full name v inside unknown _ rfl

theorem read_eq_ok {closed : Bool} {d : Declaration} :
    Declaration.read (.object parts closed) = .ok d ↔
      closed = true ∧ ∃ gathered, gather none parts = .ok gathered ∧
        Definition.read (.object gathered.others true) = .ok d.definition ∧
        gathered.component.getD "" = d.component := by
  obtain ⟨component, definition⟩ := d
  rw [Declaration.read]
  cases gather none parts with
  | error fault => simp [bind, Except.bind]
  | ok gathered =>
    cases closed with
    | false => simp [bind, Except.bind]
    | true =>
      simp only [bind, Except.bind, Definition.read, Json.Shape.read]
      cases read : Definition.shape.readObject gathered.others true <;>
        simp [read, pure, Except.pure, and_comm]

theorem given_componentField {d : Declaration} :
    componentField.Given parts d ↔
      ∃ component, componentOr none parts = .ok component ∧ component.getD "" = d.component := by
  simp only [RecordField.Given, componentField, componentOr]
  cases parts.lookup (some "component") <;> simp [Results.map_eq_ok]

/-- A declaration is its component and what the other members read as. -/
theorem read_iff (allowed : scheme.Allows parts) {d : Declaration} :
    Declaration.read (.object parts true) = .ok d ↔
      componentField.Given parts d ∧
        Definition.read (.object (others parts) true) = .ok d.definition := by
  have gathers := fun gathered =>
    @gather_eq_ok parts none gathered allowed.readable allowed.distinct (absurd rfl)
  rw [read_eq_ok, given_componentField]
  constructor
  · rintro ⟨-, gathered, found, definition, component⟩
    obtain ⟨given, kept, -⟩ := (gathers gathered).mp found
    exact ⟨⟨_, given, component⟩, kept ▸ definition⟩
  · rintro ⟨⟨component, given, same⟩, definition⟩
    have sound := sound_others allowed ((read_others_iff allowed).mp definition).2
    exact ⟨rfl, ⟨component, others parts⟩, (gathers _).mpr ⟨given, rfl, sound⟩, definition, same⟩

/-- Nothing else makes a declaration fail than its component, if that is no text, or what the other
members read as. -/
theorem read_fails_iff (allowed : scheme.Allows parts) :
    (∃ fault, Declaration.read (.object parts true) = .error fault) ↔
      (∃ v, (some "component", v) ∈ parts ∧ ∀ s, v ≠ .string (some s)) ∨
        ∃ fault, Definition.read (.object (others parts) true) = .error fault := by
  have given : (∃ s, componentField.Given parts ⟨s, default⟩) ↔
      ¬∃ v, (some "component", v) ∈ parts ∧ ∀ s, v ≠ .string (some s) := by
    simp only [Pairs.mem_iff_lookup allowed.distinct, RecordField.Given, componentField]
    cases parts.lookup (some "component") <;> simp [readString_eq_ok]
  have apart : (∃ d, Declaration.read (.object parts true) = .ok d) ↔
      (∃ s, componentField.Given parts ⟨s, default⟩) ∧
        ∃ d, Definition.read (.object (others parts) true) = .ok d := by
    simp only [read_iff allowed]
    constructor
    · rintro ⟨⟨s, d⟩, component, definition⟩
      exact ⟨⟨s, component⟩, d, definition⟩
    · rintro ⟨⟨s, component⟩, d, definition⟩
      exact ⟨⟨s, d⟩, component, definition⟩
  rw [Results.fails_iff, Results.fails_iff, apart, given, not_and_or, not_not]

/-- Declarations that differ only in what does not count read the same. -/
theorem steady : Steady scheme Declaration.read := by
  intro v w alike d
  cases alike with
  | scalar => rfl
  | array free => nomatch free
  | @object _ parts others' closed allowed allowed' same alike =>
    cases closed with
    | false => simp [read_eq_ok]
    | true =>
      have known : ∀ name ∈ "component" :: Definition.recordFields.map (·.name),
          scheme.knows name = true :=
        fun name inside => Scheme.knows_flat.mpr inside
      have found := fun name inside => lookup_alike allowed allowed' (same name (known name inside))
        fun v w => alike name v w (known name inside)
      rw [read_iff allowed, read_iff allowed', read_others_iff allowed, read_others_iff allowed']
      refine and_congr ?_ (and_congr_right fun _ => forall₂_congr fun f inside => ?_)
      · exact RecordField.given_congr (steady_readString _) (found _ List.mem_cons_self)
      · have steady : Steady (scheme.member f.name) f.read := by
          rw [scheme, Scheme.member_flat]
          exact Definition.steady_recordFields f inside
        exact RecordField.given_congr steady
          (found f.name (List.mem_cons_of_mem _ (List.mem_map.mpr ⟨f, inside, rfl⟩)))

end Declaration
end GatedStartup
