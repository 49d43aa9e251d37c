import GatedStartup.Proofs.EngineMemory
import GatedStartup.Proofs.IndexHistory
import GatedStartup.Scripted.Session

/-! A catalogue over its whole life. Declarations are registered, indexes ensured and destroyed all
at once or one at a time, and looked up, in any order, and whatever is asked may be answered in any
way. At any time the catalogue has the first declaration of each name and nothing else. -/
namespace GatedStartup

open Index Lookup
open Scripted.Session (replaceEntry)

namespace Declaration

/-- The names that are declared, each where it comes first. -/
theorem names_firstNamed (declared : List Declaration) :
    (firstNamed declared).map (·.1) = (declared.filterMap name?).eraseDups := by
  induction declared using List.reverseRecOn with
  | nil => rfl
  | append_singleton declared d ih =>
    have taken (name : String) : name ∈ (firstNamed declared).map (·.1) ↔
        name ∈ declared.filterMap name? := by rw [ih, List.mem_eraseDups]
    rw [firstNamed_concat, List.map_append, List.filterMap_append, List.eraseDups_append, ← ih]
    cases named : d.name? with
    | none => simp [addition, named, List.removeAll]
    | some name =>
      by_cases known : name ∈ declared.filterMap name?
      · have before := (taken name).mpr known
        simp only [addition, named, Option.elim_some, if_pos before]
        simp [List.removeAll, named, List.mem_filterMap.mp known]
      · have new := (taken name).not.mpr known
        simp only [addition, named, Option.elim_some, if_neg new]
        simp [List.removeAll, named, List.mem_filterMap.not.mp known, List.eraseDups_cons]

theorem lookup_firstNamed (declared : List Declaration) (name : String) :
    (firstNamed declared).lookup name = declared.find? fun d => d.name? == some name := by
  induction declared using List.reverseRecOn with
  | nil => rfl
  | append_singleton declared d ih =>
    rw [firstNamed_concat, List.lookup_append, List.find?_append, ← ih]
    cases first : (firstNamed declared).lookup name with
    | some _ => rfl
    | none =>
      have fresh : name ∉ (firstNamed declared).map (·.1) := by
        intro taken
        obtain ⟨e, member, rfl⟩ := List.mem_map.mp taken
        exact absurd (List.lookup_eq_none_iff.mp first e member) (by simp)
      cases named : d.name? with
      | none => simp [addition, named]
      | some other =>
        by_cases same : name = other
        · subst same
          simp [addition, named, if_neg fresh]
        · have apart : (name == other) = false := beq_false_of_ne same
          simp only [addition, named, Option.elim_some]
          split <;> simp [named, List.lookup_cons, apart, Ne.symm same]

end Declaration

theorem Evolved.released_eq {R : String → Managed → Managed → Prop} {entries entries' : List Entry}
    (evolved : Evolved R entries entries') (kept : ∀ name x x', R name x x' →
      x'.definition = x.definition ∧ x'.component = x.component) :
    entries'.map Entry.released = entries.map Entry.released := by
  induction evolved with
  | nil => rfl
  | @cons e e' rest rest' related _ ih =>
    obtain ⟨same, related⟩ := related
    obtain ⟨definition, component⟩ := kept _ _ _ related
    simp only [List.map_cons, ih, Entry.released, same, definition, component]

theorem Rebound.kept {t : Transcript} (name : String) (x x' : Managed)
    (rebound : Rebound t name x x') :
    x'.definition = x.definition ∧ x'.component = x.component :=
  ⟨rebound.definition, rebound.component⟩

namespace Index.Catalogue

open Declaration

inductive Call where
  | register (d : Declaration)
  | ensureAll
  | destroyAll
  | get (name : String)
  | names
  /-- Whoever has an index from the catalogue shares it with the catalogue. -/
  | use (name : String) (call : Managed.Call)

/-- What a call declares. -/
def Call.declares : Call → List Declaration
  | .register d => [d]
  | _ => []

inductive Outcome where
  | registered (result : Except ConfigurationError Entry)
  | ensured (result : Except Failure (List Handle))
  | destroyed (result : Except Failure Unit)
  | found (x : Option Managed)
  | listed (names : List String)
  | used (outcome : Option Managed.Outcome)

def call (k : Collaborators) (c : Catalogue) : Call → Work (Outcome × Catalogue)
  | .register d => do
    let (result, c') ← c.register d.component d.definition
    pure (.registered result, c')
  | .ensureAll => do
    let (result, c') ← c.ensureAll k
    pure (.ensured result, c')
  | .destroyAll => do
    let (result, c') ← c.destroyAll
    pure (.destroyed result, c')
  | .get name => pure (.found (c.get? name), c)
  | .names => pure (.listed c.names, c)
  | .use name call =>
    match c.get? name with
    | none => pure (.used none, c)
    | some x => do
      let (outcome, y) ← x.call k call
      pure (.used (some outcome), replaceEntry name y c)

/-- A call, with all that was asked in it and the catalogue before and after. -/
structure Turn where
  collaborators : Collaborators
  call : Call
  before : Catalogue
  asked : Transcript
  outcome : Outcome
  after : Catalogue

/-- What was declared in the turns. -/
def declaredIn (turns : List Turn) : List Declaration := turns.flatMap (·.call.declares)

/-- The calls made so far. -/
inductive Lived : Catalogue → List Turn → Catalogue → Prop where
  | nil : Lived c [] c
  | cons {k : Collaborators} {call : Call} : (c.call k call).Ends t (outcome, c') →
      Lived c' turns c'' → Lived c (⟨k, call, c, t, outcome, c'⟩ :: turns) c''

/-- All that registering a declaration can do. -/
inductive Registering (c : Catalogue) (d : Declaration) :
    Transcript → Except ConfigurationError Entry → Catalogue → Prop where
  | unnamed : d.name? = none → Registering c d [] (.error (.missingField "index_name")) c
  | added : d.name? = some name → c.get? name = none →
      Registering c d [] (.ok (entry (name, d))) ⟨c.entries ++ [entry (name, d)]⟩
  | kept : d.name? = some name → c.get? name = some x →
      Registering c d (if x.definition.agrees d.definition then []
        else [⟨.warn (.redefinition name d.component), ()⟩]) (.ok (name, x)) c

/-- All that a call can do. -/
inductive Answered (k : Collaborators) (c : Catalogue) :
    Call → Transcript → Outcome → Catalogue → Prop where
  | registered : Registering c d t result c' → Answered k c (.register d) t (.registered result) c'
  | ensured : EnsuredEach c.entries t result c'.entries →
      Answered k c .ensureAll t (.ensured result) c'
  | destroyed : DestroyedEach c.entries t failed c'.entries →
      Answered k c .destroyAll t (.destroyed (failed.elim (.ok ()) .error)) c'
  | found : Answered k c (.get name) [] (.found (c.get? name)) c
  | listed : Answered k c .names [] (.listed c.names) c
  | unused {own : Managed.Call} : c.get? name = none →
      Answered k c (.use name own) [] (.used none) c
  | used {own : Managed.Call} : c.get? name = some x → Managed.Answered k x t outcome y →
      Answered k c (.use name own) t (.used (some outcome)) (replaceEntry name y c)

variable {k : Collaborators} {c c' c'' : Catalogue} {d : Declaration} {t : Transcript}
  {declared : List Declaration}

theorem register_registering {result : Except ConfigurationError Entry}
    (ends : (c.register d.component d.definition).Ends t (result, c')) :
    Registering c d t result c' := by
  simp only [register, Rehearsal.indexName_unbound] at ends
  cases named : d.name? with
  | none =>
    obtain ⟨rfl, rfl, rfl⟩ := by simpa [named] using ends
    exact .unnamed named
  | some name =>
    simp only [named, Option.elim_some] at ends
    cases known : c.get? name with
    | none =>
      obtain ⟨rfl, rfl, rfl⟩ := by simpa [known] using ends
      exact .added named known
    | some x =>
      have kept := Registering.kept named known
      simp only [known] at ends
      split at ends
      · next same =>
        obtain ⟨rfl, rfl, rfl⟩ := by simpa using ends
        rwa [if_pos same] at kept
      · next other =>
        obtain ⟨_, rest, rfl, done⟩ := ends_ask_bind.mp ends
        obtain ⟨rfl, rfl, rfl⟩ := by simpa using done
        rwa [if_neg other] at kept

theorem Registering.entries_eq {result : Except ConfigurationError Entry}
    (registering : Registering c d t result c') :
    c'.entries = c.entries ++ (d.addition c.names).map entry := by
  cases registering with
  | unnamed unnamed => simp [addition, unnamed]
  | added named absent => simp [addition, named, get?_eq_none.mp absent]
  | kept named known => simp [addition, named, mem_names known]

theorem call_ends {call : Call} {outcome : Outcome} (well : WellNamed c.entries)
    (ends : (c.call k call).Ends t (outcome, c')) : Answered k c call t outcome c' := by
  cases call with
  | register d =>
    obtain ⟨front, ⟨result, after⟩, rest, rfl, registered, done⟩ := Program.ends_bind.mp ends
    obtain ⟨rfl, rfl, rfl⟩ := by simpa using done
    simpa using .registered (register_registering registered)
  | ensureAll =>
    obtain ⟨front, ⟨result, after⟩, rest, rfl, ensured, done⟩ := Program.ends_bind.mp ends
    obtain ⟨rfl, rfl, rfl⟩ := by simpa using done
    simpa using .ensured (ensureAll_ends well ensured)
  | destroyAll =>
    obtain ⟨front, ⟨result, after⟩, rest, rfl, destroyed, done⟩ := Program.ends_bind.mp ends
    obtain ⟨rfl, rfl, rfl⟩ := by simpa using done
    obtain ⟨failed, each, rfl⟩ := destroyAll_ends destroyed
    simpa using .destroyed each
  | get name =>
    obtain ⟨rfl, rfl, rfl⟩ := by simpa using Program.ends_pure.mp ends
    exact .found
  | names =>
    obtain ⟨rfl, rfl, rfl⟩ := by simpa using Program.ends_pure.mp ends
    exact .listed
  | use name call =>
    rw [Catalogue.call] at ends
    split at ends
    · next absent =>
      obtain ⟨rfl, rfl, rfl⟩ := by simpa using Program.ends_pure.mp ends
      exact .unused absent
    · next x known =>
      obtain ⟨front, ⟨result, y⟩, rest, rfl, used, done⟩ := Program.ends_bind.mp ends
      obtain ⟨rfl, rfl, rfl⟩ := by simpa using done
      simpa using .used known (Managed.call_ends used)

theorem mem_of_get? {name : String} {x : Managed} (known : c.get? name = some x) :
    (name, x) ∈ c.entries := by
  obtain ⟨front, rest, whole, -⟩ := List.lookup_eq_some_iff.mp known
  rw [whole]
  exact List.mem_append_right _ List.mem_cons_self

/-- An index that is put in the place of another takes no other place. -/
theorem evolved_replaceEntry {R : String → Managed → Managed → Prop} {name : String}
    {x y : Managed} (well : WellNamed c.entries) (known : c.get? name = some x)
    (others : ∀ e ∈ c.entries, R e.1 e.2 e.2) (replaced : R name x y) :
    Evolved R c.entries (replaceEntry name y c).entries := by
  refine List.forall₂_map_right_iff.mpr (List.forall₂_same.mpr fun e member => ?_)
  obtain ⟨other, z⟩ := e
  by_cases same : other = name
  · subst same
    obtain rfl := well.unique (mem_of_get? known) member
    simpa using replaced
  · simpa [same] using others _ member

/-- Ensuring, destroying and looking up change nothing but bindings. -/
theorem Answered.released_eq {call : Call} {outcome : Outcome}
    (answered : Answered k c call t outcome c') (well : WellNamed c.entries)
    (silent : call.declares = []) :
    c'.entries.map Entry.released = c.entries.map Entry.released := by
  cases answered with
  | registered => contradiction
  | ensured ensured =>
    exact (ensured.gains.mono fun _ _ _ gain => gain.rebound).released_eq Rebound.kept
  | destroyed destroyed =>
    exact ((destroyed.losses well).mono fun _ _ _ loss => loss.rebound t).released_eq Rebound.kept
  | found | listed | unused => rfl
  | used known answered =>
    exact (evolved_replaceEntry well known (fun _ _ => ⟨rfl, rfl⟩)
      answered.definition_eq).released_eq fun _ _ _ same => same

/-- The entries are the first declarations of their names, bound to whatever they are bound to. -/
def Lists (c : Catalogue) (declared : List Declaration) : Prop :=
  c.entries.map Entry.released = (firstNamed declared).map entry

namespace Lists

theorem names_eq (lists : c.Lists declared) : c.names = (firstNamed declared).map (·.1) := by
  have same := congrArg (List.map (·.1)) lists
  simpa [Entry.released, entry, names, Function.comp_def] using same

theorem of_mem (lists : c.Lists declared) {e : Entry} (member : e ∈ c.entries) :
    ∃ named ∈ firstNamed declared, e.1 = named.1 ∧ e.2.definition = named.2.definition ∧
      e.2.component = some named.2.component := by
  have released : Entry.released e ∈ (firstNamed declared).map entry :=
    lists ▸ List.mem_map_of_mem member
  obtain ⟨named, inside, same⟩ := List.mem_map.mp released
  refine ⟨named, inside, (congrArg (·.1) same).symm, ?_, ?_⟩
  · exact (congrArg (·.2.definition) same).symm
  · exact (congrArg (·.2.component) same).symm

theorem well (lists : c.Lists declared) : WellNamed c.entries where
  named e member := by
    obtain ⟨named, inside, name, definition, component⟩ := lists.of_mem member
    rw [Managed.indexName_eq_ok, definition, component, name]
    exact name?_firstNamed inside
  distinct := by
    have names : c.entries.map (·.1) = _ := lists.names_eq
    exact names ▸ distinct_firstNamed declared

/-- What is found under a name is the first declaration of the name. -/
theorem get?_eq (lists : c.Lists declared) (name : String) :
    (c.get? name).map (fun x => { x with binding := none }) =
      (declared.find? fun d => d.name? == some name).map fun d =>
        .unbound d.definition (some d.component) := by
  rw [← lookup_firstNamed, ← Pairs.lookup_map, get?, ← Pairs.lookup_map]
  exact congrArg (List.lookup name) lists

theorem get?_eq_none (lists : c.Lists declared) {name : String} :
    c.get? name = none ↔ ∀ d ∈ declared, d.name? ≠ some name := by
  have same := lists.get?_eq name
  cases known : c.get? name with
  | none => simpa [known] using same.symm
  | some x =>
    rw [known] at same
    obtain ⟨d, first, -⟩ := Option.map_eq_some_iff.mp same.symm
    have named : d.name? = some name := by simpa using List.find?_some first
    simp only [reduceCtorEq, false_iff]
    exact fun absent => absent d (List.mem_of_find?_eq_some first) named

theorem of_first (lists : c.Lists declared) {name : String} {first : Declaration}
    (earliest : declared.find? (fun d => d.name? == some name) = some first) :
    ∃ x, c.get? name = some x ∧ x.definition = first.definition ∧
      x.component = some first.component := by
  have same := lists.get?_eq name
  rw [earliest] at same
  obtain ⟨x, there, released⟩ := Option.map_eq_some_iff.mp same
  exact ⟨x, there, congrArg (·.definition) released, congrArg (·.component) released⟩

theorem registering {result : Except ConfigurationError Entry} (lists : c.Lists declared)
    (registering : Registering c d t result c') : c'.Lists (declared ++ [d]) := by
  rw [Lists, registering.entries_eq, firstNamed_concat, ← lists.names_eq, List.map_append,
    List.map_append, lists, List.map_map]
  rfl

theorem answered {call : Call} {outcome : Outcome} (lists : c.Lists declared)
    (answered : Answered k c call t outcome c') : c'.Lists (declared ++ call.declares) := by
  have other (silent : call.declares = []) : c'.Lists (declared ++ call.declares) := by
    rw [silent, List.append_nil]
    exact (answered.released_eq lists.well silent).trans lists
  cases call with
  | register d =>
    cases answered with
    | registered registering => exact lists.registering registering
  | ensureAll | destroyAll | get | names | use => exact other rfl

end Lists

namespace Turn

/-- The declaration comes to the entry of an earlier one of its name. What it would have changed is
warned of, and nothing changes. -/
structure Keeps (turn : Turn) (name : String) (first d : Declaration) : Prop where
  outcome : ∃ x, turn.before.get? name = some x ∧ turn.outcome = .registered (.ok (name, x)) ∧
    x.definition = first.definition ∧ x.component = some first.component
  unchanged : turn.after = turn.before
  warned : turn.asked = if first.definition.agrees d.definition then []
    else [⟨.warn (.redefinition name d.component), ()⟩]

/-- The declaration is the first of its name and comes last. -/
structure Adds (turn : Turn) (name : String) (d : Declaration) : Prop where
  outcome : turn.outcome = .registered (.ok (entry (name, d)))
  appended : turn.after.entries = turn.before.entries ++ [entry (name, d)]
  silent : turn.asked = []

/-- A catalogue is looked up, which changes nothing and asks nobody. -/
structure Reads (turn : Turn) (outcome : Outcome) : Prop where
  outcome : turn.outcome = outcome
  unchanged : turn.after = turn.before
  silent : turn.asked = []

/-- How a call goes once that was declared. -/
structure Lawful (declared : List Declaration) (turn : Turn) : Prop where
  /-- A declaration is rejected just when neither it nor its component has a name. -/
  rejects : ∀ d, turn.call = .register d → ((∃ error, turn.outcome = .registered (.error error)) ↔
    Text.isBlank d.definition.name = true ∧ Text.isBlank d.component = true)
  rejected : ∀ error, turn.outcome = .registered (.error error) →
    error = .missingField "index_name" ∧ turn.after = turn.before ∧ turn.asked = []
  adds : ∀ d name, turn.call = .register d → d.name? = some name →
    (∀ d' ∈ declared, d'.name? ≠ some name) → turn.Adds name d
  keeps : ∀ d name first, turn.call = .register d → d.name? = some name →
    declared.find? (fun d' => d'.name? == some name) = some first → turn.Keeps name first d
  released : turn.call.declares = [] →
    turn.after.entries.map Entry.released = turn.before.entries.map Entry.released
  found : ∀ name, turn.call = .get name → turn.Reads (.found (turn.before.get? name))
  listed : turn.call = .names → turn.Reads (.listed turn.before.names)

theorem lawful {call : Call} {outcome : Outcome} (lists : c.Lists declared)
    (answered : Answered k c call t outcome c') :
    Lawful declared ⟨k, call, c, t, outcome, c'⟩ := by
  constructor
  case rejects =>
    rintro d rfl
    rw [← name?_eq_none]
    cases answered with
    | registered registering => cases registering <;> simp_all
  case rejected =>
    rintro error rfl
    cases answered with
    | registered registering => cases registering; exact ⟨rfl, rfl, rfl⟩
  case adds =>
    rintro d name rfl named fresh
    have absent := lists.get?_eq_none.mpr fresh
    cases answered with
    | registered registering =>
      cases registering with
      | unnamed unnamed => simp [named] at unnamed
      | added resolved =>
        obtain rfl := Option.some.inj (named.symm.trans resolved)
        exact ⟨rfl, rfl, rfl⟩
      | kept resolved known =>
        obtain rfl := Option.some.inj (named.symm.trans resolved)
        simp [absent] at known
  case keeps =>
    rintro d name first rfl named earliest
    obtain ⟨x, there, definition, component⟩ := lists.of_first earliest
    cases answered with
    | registered registering =>
      cases registering with
      | unnamed unnamed => simp [named] at unnamed
      | added resolved absent =>
        obtain rfl := Option.some.inj (named.symm.trans resolved)
        simp [absent] at there
      | kept resolved known =>
        obtain rfl := Option.some.inj (named.symm.trans resolved)
        obtain rfl := Option.some.inj (there.symm.trans known)
        exact ⟨⟨x, there, rfl, definition, component⟩, rfl, by rw [definition]⟩
  case released => exact answered.released_eq lists.well
  case found =>
    rintro name rfl
    cases answered
    exact ⟨rfl, rfl, rfl⟩
  case listed =>
    rintro rfl
    cases answered
    exact ⟨rfl, rfl, rfl⟩

end Turn

/-- The catalogue has the first declarations of all names, in order. -/
structure Upholds (c : Catalogue) (declared : List Declaration) : Prop where
  names : c.names = (declared.filterMap Declaration.name?).eraseDups
  distinct : c.names.Nodup
  /-- An entry goes by its own name, which has text and no white space around it. -/
  named : ∀ e ∈ c.entries, e.2.indexName = .ok e.1 ∧ Text.trimmed? e.1 = some e.1
  stored : ∀ name, (c.get? name).map (fun x => { x with binding := none }) =
    (declared.find? fun d => d.name? == some name).map fun d =>
      .unbound d.definition (some d.component)

theorem Lists.upholds (lists : c.Lists declared) : c.Upholds declared where
  names := lists.names_eq.trans (names_firstNamed declared)
  distinct := lists.well.distinct
  named e member := by
    have named := lists.well.named e member
    exact ⟨named, Definition.trimmed?_indexName? (Managed.indexName_eq_ok.mp named)⟩
  stored := lists.get?_eq

namespace Lived

variable {turns earlier later : List Turn}

theorem split {turn : Turn} (lived : Lived c (earlier ++ turn :: later) c'') :
    Lived c earlier turn.before ∧ (turn.before.call turn.collaborators turn.call).Ends turn.asked
      (turn.outcome, turn.after) ∧ Lived turn.after later c'' := by
  induction earlier generalizing c with
  | nil =>
    cases lived with
    | cons ends rest => exact ⟨.nil, ends, rest⟩
  | cons first earlier ih =>
    cases lived with
    | cons ends rest =>
      obtain ⟨before, answered, after⟩ := ih rest
      exact ⟨.cons ends before, answered, after⟩

theorem lists (lived : Lived c turns c') (start : c.Lists declared) :
    c'.Lists (declared ++ declaredIn turns) := by
  induction lived generalizing declared with
  | nil => simpa [declaredIn] using start
  | cons ends _ ih => simpa [declaredIn] using ih (start.answered (call_ends start.well ends))

end Lived

section

variable (h : Surroundings W)

/-- The turns that calls come to in given surroundings. -/
def turnsIn : List (Collaborators × Call) → Catalogue → W → List Turn
  | [], _, _ => []
  | (k, call) :: calls, c, w =>
    let ((outcome, c'), after) := (c.call k call).run h w
    ⟨k, call, c, (c.call k call).events h w, outcome, c'⟩ :: turnsIn calls c' after

/-- The catalogue after them. -/
def endIn : List (Collaborators × Call) → Catalogue → W → Catalogue
  | [], c, _ => c
  | (k, call) :: calls, c, w =>
    let ((_, c'), after) := (c.call k call).run h w
    endIn calls c' after

theorem lived_turnsIn (calls : List (Collaborators × Call)) (c : Catalogue) (w : W) :
    Lived c (turnsIn h calls c w) (endIn h calls c w) := by
  induction calls generalizing c w with
  | nil => exact .nil
  | cons first calls ih => exact .cons (Program.ends_events h (c.call _ _) w) (ih _ _)

end

/-- From an empty catalogue on, every call goes by what was declared before it. -/
theorem lived_lawful {turns : List Turn} (lived : Lived empty turns c) :
    c.Upholds (declaredIn turns) ∧
      ∀ earlier turn later, turns = earlier ++ turn :: later →
        turn.before.Upholds (declaredIn earlier) ∧ turn.Lawful (declaredIn earlier) := by
  have start : empty.Lists [] := rfl
  refine ⟨(lived.lists start).upholds, ?_⟩
  rintro earlier turn later rfl
  obtain ⟨before, ends, -⟩ := lived.split
  have lists : turn.before.Lists (declaredIn earlier) := before.lists start
  exact ⟨lists.upholds, Turn.lawful lists (call_ends lists.well ends)⟩

end Index.Catalogue

namespace Trial

open Catalogue Rehearsal

/-- An index, another definition that takes its name from a component, a declaration without any
name, and the first one once more. -/
def stocktaking : List (Collaborators × Catalogue.Call) :=
  [.register ⟨"shop", orders⟩, .ensureAll, .register ⟨" orders ", { astray with name := " " }⟩,
    .register ⟨"", Definition.vacant⟩, .register ⟨"mall", { orders with name := "orders " }⟩,
    .use "orders" .bound, .destroyAll, .get "orders", .names].map (collaborators, ·)

def stocktaken : List Turn :=
  turnsIn setting.surroundings stocktaking Catalogue.empty (stage "orders")

theorem stocktaken_lawful :
    (endIn setting.surroundings stocktaking Catalogue.empty (stage "orders")).names = ["orders"] ∧
      stocktaken.map (·.asked.length) = [0, 1, 1, 0, 0, 0, 1, 0, 0] ∧
      ∀ earlier turn later, stocktaken = earlier ++ turn :: later →
        turn.before.Upholds (declaredIn earlier) ∧ turn.Lawful (declaredIn earlier) :=
  ⟨by decide, by decide, (lived_lawful (lived_turnsIn ..)).2⟩

end Trial
end GatedStartup
