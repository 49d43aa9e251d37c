import GatedStartup.Proofs.OrderedTables
import GatedStartup.Proofs.RecordReading

/-! Values that differ only in what does not count for a reader: the order of members, and members
with names unknown to the record that is read. A reader is steady when it reads such values
alike. -/
namespace GatedStartup.Json

variable {α β ρ : Type}

/-- Which records are read in a value, and where. -/
inductive Scheme where
  /-- No record: every part of the value counts. -/
  | whole
  | list (item : Scheme)
  /-- Only members of these names count. With a `depth` the others are taken in full before they
  are dropped, and must not be nested deeper. -/
  | record (members : List (String × Scheme)) (depth : Option Nat)

namespace Scheme

def isRecord : Scheme → Bool
  | .record _ _ => true
  | _ => false

def item : Scheme → Scheme
  | .list item => item
  | _ => .whole

def knows (name : String) : Scheme → Bool
  | .record members _ => (members.lookup name).isSome
  | _ => true

def member (name : String) : Scheme → Scheme
  | .record members _ => (members.lookup name).getD .whole
  | _ => .whole

def depth? : Scheme → Option Nat
  | .record _ depth => depth
  | _ => none

/-- A record without records in it. -/
def flat (names : List String) (depth : Option Nat) : Scheme :=
  .record (names.map fun name => (name, .whole)) depth

theorem knows_flat {names : List String} {depth : Option Nat} {name : String} :
    (flat names depth).knows name = true ↔ name ∈ names := by
  rw [flat, knows, Option.isSome_iff_ne_none, Ne, Pairs.lookup_eq_none]
  simp

@[simp] theorem member_flat (names : List String) (depth : Option Nat) (name : String) :
    (flat names depth).member name = .whole := by
  rw [flat, member]
  cases found : (names.map fun name => (name, Scheme.whole)).lookup name with
  | none => rfl
  | some scheme =>
    obtain ⟨_, -, same⟩ := List.mem_map.mp (Pairs.mem_of_lookup found)
    exact (congrArg Prod.snd same).symm

/-- No member is repeated. Every name can be read, since one that cannot makes the object malformed
whether it is known or not; and so can the unknown members that are taken in full. -/
structure Allows (scheme : Scheme) (parts : List (Literal × Value)) : Prop where
  readable : none ∉ parts.map (·.1)
  distinct : (parts.map (·.1)).Nodup
  full : ∀ name v, (some name, v) ∈ parts → scheme.knows name = false →
    ∀ depth, scheme.depth? = some depth → v.sound depth = true

/-- Where unknown members are skipped, they may hold anything. -/
theorem Allows.of_skipped {scheme : Scheme} {parts : List (Literal × Value)}
    (skipped : scheme.depth? = none) (readable : none ∉ parts.map (·.1))
    (distinct : (parts.map (·.1)).Nodup) : scheme.Allows parts where
  readable := readable
  distinct := distinct
  full name v inside unknown depth taken := by simp [skipped] at taken

end Scheme

def Value.isContainer : Value → Bool
  | .array _ _ => true
  | .object _ _ => true
  | _ => false

/-- The values differ only in the order of members and in members with unknown names. Records are
written as objects. -/
inductive Alike : Scheme → Value → Value → Prop
  | scalar {scheme : Scheme} {v : Value} (simple : v.isContainer = false) : Alike scheme v v
  | array {scheme : Scheme} {items others : List Value} {closed : Bool}
      (free : scheme.isRecord = false) (length : items.length = others.length)
      (alike : ∀ (i : Nat) v w, items[i]? = some v → others[i]? = some w → Alike scheme.item v w) :
      Alike scheme (.array items closed) (.array others closed)
  | object {scheme : Scheme} {parts others : List (Literal × Value)} {closed : Bool}
      (allowed : scheme.Allows parts) (allowed' : scheme.Allows others)
      (known : ∀ name, scheme.knows name = true →
        (some name ∈ parts.map (·.1) ↔ some name ∈ others.map (·.1)))
      (alike : ∀ name v w, scheme.knows name = true → (some name, v) ∈ parts →
        (some name, w) ∈ others → Alike (scheme.member name) v w) :
      Alike scheme (.object parts closed) (.object others closed)

/-- The reader fails on both of two alike values, or reads the same from both. -/
def Steady (scheme : Scheme) (read : Reader α) : Prop :=
  ∀ v w, Alike scheme v w → ∀ x, read v = .ok x ↔ read w = .ok x

variable {scheme : Scheme} {read : Reader α}

/-- Nothing can differ for a reader that takes no containers. -/
theorem Steady.of_refuses (refuses : ∀ v x, v.isContainer = true → read v ≠ .ok x) :
    Steady scheme read := by
  intro v w alike x
  cases alike with
  | scalar => rfl
  | array => exact iff_of_false (refuses _ x rfl) (refuses _ x rfl)
  | object => exact iff_of_false (refuses _ x rfl) (refuses _ x rfl)

theorem steady_readString (scheme : Scheme) : Steady scheme readString := by
  refine .of_refuses fun v x container => ?_
  cases v <;> simp [Value.isContainer, readString] at container ⊢

theorem steady_readBoolean (scheme : Scheme) : Steady scheme readBoolean := by
  refine .of_refuses fun v x container => ?_
  cases v <;> simp [Value.isContainer, readBoolean] at container ⊢

theorem Steady.map (steady : Steady scheme read) (change : α → β) :
    Steady scheme fun v => (read v).map change := by
  intro v w alike y
  rw [Results.map_eq_ok, Results.map_eq_ok]
  exact exists_congr fun x => and_congr_left' (steady v w alike x)

theorem Steady.readOptional (steady : Steady scheme read) : Steady scheme (readOptional read) := by
  intro v w alike x
  cases alike with
  | scalar => rfl
  | array free length alike => exact steady.map some _ _ (.array free length alike) x
  | object allowed allowed' known alike =>
    exact steady.map some _ _ (.object allowed allowed' known alike) x

theorem readItems_eq_ok {items : List Value} {xs : List α} :
    readItems read items = .ok xs ↔ List.Forall₂ (fun v x => read v = .ok x) items xs := by
  induction items generalizing xs with
  | nil => simp [readItems, eq_comm]
  | cons v rest ih =>
    rw [readItems, List.forall₂_cons_left_iff]
    cases first : read v with
    | error fault => simp [bind, Except.bind]
    | ok x =>
      simp only [bind, Except.bind, ← ih]
      cases readItems read rest <;> simp [pure, Except.pure, eq_comm]

theorem readList_eq_ok {items : List Value} {closed : Bool} {xs : List α} :
    readList read (.array items closed) = .ok xs ↔
      closed = true ∧ readItems read items = .ok xs := by
  rw [readList]
  cases readItems read items <;> cases closed <;> simp [bind, Except.bind, pure, Except.pure]

theorem Steady.readItems {item : Scheme} (steady : Steady item read) {items others : List Value}
    (length : items.length = others.length)
    (alike : ∀ (i : Nat) v w, items[i]? = some v → others[i]? = some w → Alike item v w)
    (xs : List α) :
    Json.readItems read items = .ok xs ↔ Json.readItems read others = .ok xs := by
  have pairs : List.Forall₂ (Alike item) items others := by
    refine List.forall₂_iff_get.mpr ⟨length, fun i inside inside' => ?_⟩
    exact alike i _ _ (by simp) (by simp)
  clear length alike
  induction pairs generalizing xs with
  | nil => rfl
  | cons alike _ ih =>
    simp only [readItems_eq_ok] at ih ⊢
    simp only [List.forall₂_cons_left_iff, steady _ _ alike, ih]

theorem Steady.readList (scheme : Scheme) (steady : Steady scheme.item read) :
    Steady scheme (readList read) := by
  intro v w alike xs
  cases alike with
  | scalar => rfl
  | array free length alike => rw [readList_eq_ok, readList_eq_ok, steady.readItems length alike]
  | object => exact iff_of_false nofun nofun

/-- An object of any names, by name. -/
def readTable (read : Reader α) : Reader (Table String α) :=
  fun v => (readMap read v).map .ofList

theorem map_readTable (change : Table String α → β) (v : Value) :
    (readTable read v).map change = (readMap read v).map fun pairs => change (.ofList pairs) := by
  rw [readTable]
  cases readMap read v <;> rfl

/-- Under every name the table has what the member of that name reads as. -/
def Tabulates (read : Reader α) (parts : List (Literal × Value)) (t : Table String α) : Prop :=
  ∀ key,
    match parts.lookup (some key) with
    | none => t.get? key = none
    | some v => ∃ x, read v = .ok x ∧ t.get? key = some x

/-- A member is a readable name and a value that reads as what is paired with it. -/
def PairOf (read : Reader α) (part : Literal × Value) (pair : String × α) : Prop :=
  part.1 = some pair.1 ∧ read part.2 = .ok pair.2

variable {parts : List (Literal × Value)} {pairs : List (String × α)} {t u : Table String α}

theorem readPairs_eq_ok :
    readPairs read parts = .ok pairs ↔ List.Forall₂ (PairOf read) parts pairs := by
  induction parts generalizing pairs with
  | nil => simp [readPairs, eq_comm]
  | cons part rest ih =>
    obtain ⟨_ | name, v⟩ := part
    · simp [readPairs, PairOf, List.forall₂_cons_left_iff]
    · rw [readPairs, List.forall₂_cons_left_iff]
      cases first : read v with
      | error fault => simp [PairOf, first, bind, Except.bind]
      | ok x =>
        simp only [bind, Except.bind, ← ih]
        cases readPairs read rest <;> simp [PairOf, first, pure, Except.pure, eq_comm]

theorem PairOf.names (matched : List.Forall₂ (PairOf read) parts pairs) :
    parts.map (·.1) = (pairs.map (·.1)).map some := by
  induction matched with
  | nil => rfl
  | cons pair _ ih => simp [pair.1, ih]

theorem PairOf.exists_pairs (readable : none ∉ parts.map (·.1))
    (reads : ∀ part ∈ parts, ∃ x, read part.2 = .ok x) :
    ∃ pairs, List.Forall₂ (PairOf read) parts pairs := by
  induction parts with
  | nil => exact ⟨[], .nil⟩
  | cons part rest ih =>
    obtain ⟨_ | name, v⟩ := part
    · simp at readable
    · obtain ⟨x, first⟩ := reads _ List.mem_cons_self
      obtain ⟨pairs, others⟩ := ih (by simpa using readable)
        fun part inside => reads part (List.mem_cons_of_mem _ inside)
      exact ⟨(name, x) :: pairs, .cons ⟨rfl, first⟩ others⟩

theorem PairOf.tabulates (distinct : (parts.map (·.1)).Nodup)
    (matched : List.Forall₂ (PairOf read) parts pairs) : Tabulates read parts (.ofList pairs) := by
  rw [names matched] at distinct
  intro key
  rw [Table.get?_ofList (distinct.of_map some)]
  clear distinct
  induction matched with
  | nil => rfl
  | @cons part pair _ _ first _ ih =>
    obtain ⟨name, v⟩ := part
    obtain ⟨rfl, reads⟩ := first
    by_cases same : key = pair.1
    · subst same
      rw [List.lookup_cons_self]
      exact ⟨pair.2, reads, List.lookup_cons_self⟩
    · rw [List.lookup_cons, List.lookup_cons, beq_false_of_ne same,
        beq_false_of_ne (mt Option.some.inj same)]
      exact ih

theorem Tabulates.eq (ordered : t.Ordered) (ordered' : u.Ordered)
    (tabulates : Tabulates read parts t) (tabulates' : Tabulates read parts u) : t = u := by
  apply ordered.eq_of_get? ordered'
  intro key
  have here := tabulates key
  have there := tabulates' key
  cases found : parts.lookup (some key) with
  | none =>
    rw [found] at here there
    rw [here, there]
  | some v =>
    rw [found] at here there
    obtain ⟨x, reads, here⟩ := here
    obtain ⟨y, reads', there⟩ := there
    rw [here, there, ← Except.ok.inj (reads.symm.trans reads')]

theorem readTable_eq_ok {closed : Bool} :
    readTable read (.object parts closed) = .ok t ↔
      closed = true ∧ ∃ pairs, List.Forall₂ (PairOf read) parts pairs ∧ .ofList pairs = t := by
  simp only [readTable, Results.map_eq_ok, ← readPairs_eq_ok, readMap]
  cases readPairs read parts <;> cases closed <;> simp [bind, Except.bind, pure, Except.pure]

theorem readTable_iff (readable : none ∉ parts.map (·.1)) (distinct : (parts.map (·.1)).Nodup) :
    readTable read (.object parts true) = .ok t ↔ t.Ordered ∧ Tabulates read parts t := by
  rw [readTable_eq_ok]
  constructor
  · rintro ⟨-, pairs, matched, rfl⟩
    exact ⟨Table.ordered_ofList pairs, PairOf.tabulates distinct matched⟩
  · rintro ⟨ordered, tabulates⟩
    obtain ⟨pairs, matched⟩ : ∃ pairs, List.Forall₂ (PairOf read) parts pairs := by
      apply PairOf.exists_pairs readable
      rintro ⟨_ | name, v⟩ inside
      · exact absurd (List.mem_map.mpr ⟨_, inside, rfl⟩) readable
      · have here := tabulates name
        rw [(Pairs.mem_iff_lookup distinct).mp inside] at here
        exact here.imp fun _ found => found.1
    exact ⟨rfl, pairs, matched, (PairOf.tabulates distinct matched).eq
      (Table.ordered_ofList pairs) ordered tabulates⟩

/-- A name that counts is in neither object, or stands for values that are alike. -/
theorem lookup_alike {others : List (Literal × Value)} {name : String}
    (allowed : scheme.Allows parts) (allowed' : scheme.Allows others)
    (known : some name ∈ parts.map (·.1) ↔ some name ∈ others.map (·.1))
    (alike : ∀ v w, (some name, v) ∈ parts → (some name, w) ∈ others →
      Alike (scheme.member name) v w) :
    Option.Rel (Alike (scheme.member name))
      (parts.lookup (some name)) (others.lookup (some name)) := by
  cases here : parts.lookup (some name) with
  | none =>
    rw [Pairs.lookup_eq_none.mpr (mt known.mpr (Pairs.lookup_eq_none.mp here))]
    exact .none
  | some v =>
    have inside := (Pairs.mem_iff_lookup allowed.distinct).mpr here
    cases there : others.lookup (some name) with
    | none =>
      have present := known.mp (List.mem_map.mpr ⟨_, inside, rfl⟩)
      exact absurd present (Pairs.lookup_eq_none.mp there)
    | some w => exact .some (alike v w inside ((Pairs.mem_iff_lookup allowed'.distinct).mpr there))

/-- Records are alike when each of their members is, or is left out of both. -/
theorem Alike.record {members : List (String × Scheme)} {depth : Option Nat}
    {others : List (Literal × Value)} {closed : Bool}
    (allowed : (Scheme.record members depth).Allows parts)
    (allowed' : (Scheme.record members depth).Allows others)
    (same : ∀ m ∈ members,
      Option.Rel (Alike m.2) (parts.lookup (some m.1)) (others.lookup (some m.1))) :
    Alike (.record members depth) (.object parts closed) (.object others closed) := by
  have found : ∀ name, (Scheme.record members depth).knows name = true →
      Option.Rel (Alike ((Scheme.record members depth).member name))
        (parts.lookup (some name)) (others.lookup (some name)) := by
    intro name known
    obtain ⟨scheme, found⟩ := Option.isSome_iff_exists.mp known
    rw [Scheme.member, found]
    exact same _ (Pairs.mem_of_lookup found)
  refine .object allowed allowed' (fun name known => ?_) fun name v w known inside inside' => ?_
  · rw [← not_iff_not, ← Pairs.lookup_eq_none, ← Pairs.lookup_eq_none]
    have alike := found name known
    generalize parts.lookup (some name) = here, others.lookup (some name) = there at alike ⊢
    cases alike <;> simp
  · have alike := found name known
    rw [(Pairs.mem_iff_lookup allowed.distinct).mp inside,
      (Pairs.mem_iff_lookup allowed'.distinct).mp inside'] at alike
    cases alike
    assumption

theorem Steady.readTable (steady : Steady .whole read) : Steady .whole (readTable read) := by
  intro v w alike t
  cases alike with
  | scalar => rfl
  | array => exact iff_of_false nofun nofun
  | @object _ parts others closed allowed allowed' known alike =>
    cases closed with
    | false => simp [readTable_eq_ok]
    | true =>
      rw [readTable_iff allowed.readable allowed.distinct,
        readTable_iff allowed'.readable allowed'.distinct]
      refine and_congr_right fun _ => forall_congr' fun name => ?_
      have same := lookup_alike allowed allowed' (known name rfl) fun v w => alike name v w rfl
      generalize parts.lookup (some name) = here, others.lookup (some name) = there at same ⊢
      cases same with
      | none => rfl
      | some alike => simp only [steady _ _ alike]

/-- A field is given the same by objects in which its member is alike. -/
theorem RecordField.given_congr {f : RecordField ρ} {others : List (Literal × Value)} {record : ρ}
    (steady : Steady (scheme.member f.name) f.read)
    (same : Option.Rel (Alike (scheme.member f.name))
      (parts.lookup (some f.name)) (others.lookup (some f.name))) :
    f.Given parts record ↔ f.Given others record := by
  rw [Given, Given]
  generalize parts.lookup (some f.name) = here, others.lookup (some f.name) = there at same ⊢
  cases same with
  | none => rfl
  | some alike => simp only [steady _ _ alike]

/-- Records are read steadily when their fields are. -/
theorem Shape.Consists.steady {shape : Shape ρ} {fields : List (RecordField ρ)} {rest : ρ → Prop}
    {members : List (String × Scheme)} {depth : Option Nat} (consists : shape.Consists fields rest)
    (known : ∀ f ∈ fields, (Scheme.record members depth).knows f.name = true)
    (steady : ∀ f ∈ fields, Steady ((Scheme.record members depth).member f.name) f.read) :
    Steady (.record members depth) shape.read := by
  intro v w alike record
  cases alike with
  | scalar => rfl
  | array free => nomatch free
  | @object _ parts others closed allowed allowed' same alike =>
    cases closed with
    | false => exact iff_of_false (shape.readObject_open parts) (shape.readObject_open others)
    | true =>
      rw [Shape.read, consists.readObject_iff allowed.readable allowed.distinct,
        Shape.read, consists.readObject_iff allowed'.readable allowed'.distinct]
      refine and_congr_right fun _ => forall₂_congr fun f inside => ?_
      apply RecordField.given_congr (steady f inside)
      exact lookup_alike allowed allowed' (same f.name (known f inside))
        fun v w => alike f.name v w (known f inside)

theorem Shape.Consists.steady_flat {shape : Shape ρ} {fields : List (RecordField ρ)}
    {rest : ρ → Prop} (consists : shape.Consists fields rest) (depth : Option Nat)
    (steady : ∀ f ∈ fields, Steady .whole f.read) :
    Steady (.flat (fields.map (·.name)) depth) shape.read := by
  apply consists.steady
  · exact fun f inside => Scheme.knows_flat.mpr (List.mem_map.mpr ⟨f, inside, rfl⟩)
  · intro f inside
    rw [← Scheme.flat, Scheme.member_flat]
    exact steady f inside

end GatedStartup.Json
