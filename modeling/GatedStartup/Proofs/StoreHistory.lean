import GatedStartup.Proofs.HistoryFree

/-! A cache and its search service after any calls, one after another. Regions are looked at only
when an index is created, and since none goes, every index keeps its own. An index is there from the
call that created it to the next that destroys what is under its name and path. -/
namespace GatedStartup
namespace Engine

open Index

/-- Where an index is kept. -/
def IndexKey.of (index : Handle) : IndexKey := ⟨index.name, index.regionPath⟩

namespace Memory

/-- Nothing was called yet. -/
def empty : Memory := ⟨.empty, .empty⟩

inductive Call where
  | createRegion (path : String)
  | create (name path : String) (fields : Fields)
  | find (name path : String)
  | destroy (index : Handle)

inductive Outcome where
  | region (made : Option Region)
  | created (result : Except SearchError Unit)
  | found (index : Option Handle)
  | destroyed (result : Except SearchError Unit)

def Outcome.error? : Outcome → Option SearchError
  | .created (.error error) | .destroyed (.error error) => some error
  | _ => none

/-- The search service is bound to the regions of the cache. -/
def call (m : Memory) : Call → Outcome × Memory
  | .createRegion path =>
    let (made, regions) := m.regions.create path
    (.region made, ⟨regions, m.store⟩)
  | .create name path fields =>
    let (result, store) := m.store.create (some m.regions) name path fields
    (.created result, ⟨m.regions, store⟩)
  | .find name path =>
    let (index, store) := m.store.find name path
    (.found index, ⟨m.regions, store⟩)
  | .destroy index =>
    let (result, store) := m.store.destroy index
    (.destroyed result, ⟨m.regions, store⟩)

/-- What came of a call. -/
structure Turn where
  before : Memory
  call : Call
  outcome : Outcome
  after : Memory

def turn (m : Memory) (c : Call) : Turn := ⟨m, c, (m.call c).1, (m.call c).2⟩

def endFrom (m : Memory) : List Call → Memory
  | [] => m
  | c :: calls => endFrom (m.call c).2 calls

def turnsFrom (m : Memory) : List Call → List Turn
  | [] => []
  | c :: calls => m.turn c :: turnsFrom (m.call c).2 calls

/-- Why an index is not created. Only the first cause counts. -/
inductive Refuses (m : Memory) (name path : String) (fields : Fields) : SearchError → Prop where
  | fieldless : fields.toNames = [] →
      Refuses m name path fields (.createFailed name "no fields to index")
  | regionless : fields.toNames ≠ [] → m.regions.contains path = false →
      Refuses m name path fields (.createFailed name ("region " ++ path ++ " does not exist"))
  | taken : fields.toNames ≠ [] → m.regions.contains path = true →
      (m.store.indexes.get? ⟨name, path⟩).isSome = true →
      Refuses m name path fields (.alreadyExists name path)

/-- All that a call can do. -/
inductive Answered (m : Memory) : Call → Outcome → Memory → Prop where
  | region {path : String} : Answered m (.createRegion path) (.region (m.regions.create path).1)
      ⟨(m.regions.create path).2, m.store⟩
  | refused {name path : String} {fields : Fields} {error : SearchError} :
      m.Refuses name path fields error →
      Answered m (.create name path fields) (.created (.error error))
        ⟨m.regions, { m.store with creates := m.store.creates + 1 }⟩
  | created {name path : String} {fields : Fields} : fields.toNames ≠ [] →
      m.regions.contains path = true → m.store.indexes.get? ⟨name, path⟩ = none →
      Answered m (.create name path fields) (.created (.ok ()))
        ⟨m.regions, { m.store with
          creates := m.store.creates + 1
          indexes := m.store.indexes.insert ⟨name, path⟩ ⟨name, path, fields⟩ }⟩
  | found {name path : String} :
      Answered m (.find name path) (.found (m.store.indexes.get? ⟨name, path⟩))
        ⟨m.regions, { m.store with finds := m.store.finds + 1 }⟩
  | missed {index : Handle} : m.store.indexes.get? (.of index) = none →
      Answered m (.destroy index) (.destroyed (.error
          (.destroyFailed index.name ("no such index on " ++ index.regionPath))))
        ⟨m.regions, { m.store with destroys := m.store.destroys + 1 }⟩
  | destroyed {index : Handle} : (m.store.indexes.get? (.of index)).isSome = true →
      Answered m (.destroy index) (.destroyed (.ok ()))
        ⟨m.regions, { m.store with
          destroys := m.store.destroys + 1
          indexes := m.store.indexes.erase (.of index) }⟩

section

variable {m m' : Memory} {c : Call} {outcome : Outcome} {name path : String} {fields : Fields}
  {index : Handle} {past : List Turn}

theorem create_answered (m : Memory) (name path : String) (fields : Fields) :
    Answered m (.create name path fields) (m.call (.create name path fields)).1
      (m.call (.create name path fields)).2 := by
  have refused {error : SearchError}
      (found : m.store.refusal? (some m.regions) name path fields = some error)
      (cause : m.Refuses name path fields error) :
      Answered m (.create name path fields) (m.call (.create name path fields)).1
        (m.call (.create name path fields)).2 := by
    simp only [call, IndexStore.create, found]
    exact .refused cause
  by_cases bare : fields.toNames = []
  · exact refused (by simp [IndexStore.refusal?, bare]) (.fieldless bare)
  cases there : m.regions.contains path with
  | false =>
    exact refused (by simp [IndexStore.refusal?, bare, there]) (.regionless bare there)
  | true =>
    cases known : m.store.indexes.contains ⟨name, path⟩ with
    | true =>
      exact refused (by simp [IndexStore.refusal?, bare, there, known]) (.taken bare there known)
    | false =>
      have free : m.store.refusal? (some m.regions) name path fields = none := by
        simp [IndexStore.refusal?, bare, there, known]
      simp only [call, IndexStore.create, free]
      exact .created bare there (by simpa [Table.contains] using known)

theorem call_answered (m : Memory) (c : Call) : Answered m c (m.call c).1 (m.call c).2 := by
  cases c with
  | createRegion path => exact .region
  | create name path fields => exact create_answered m name path fields
  | find name path => exact .found
  | destroy index =>
    simp only [call, IndexStore.destroy]
    split
    · next there => exact .destroyed there
    · next absent => exact .missed (by simpa [Table.contains, IndexKey.of] using absent)

namespace Turn

/-- The index was not there, and is now. -/
def Creates (t : Turn) (index : Handle) : Prop :=
  t.call = .create index.name index.regionPath index.fields ∧ t.outcome = .created (.ok ())

def Destroys (t : Turn) (key : IndexKey) : Prop :=
  ∃ index, t.call = .destroy index ∧ .of index = key ∧ t.outcome = .destroyed (.ok ())

/-- An index is created or destroyed under the key. -/
def Touches (t : Turn) (key : IndexKey) : Prop :=
  (∃ index, t.Creates index ∧ .of index = key) ∨ t.Destroys key

structure Creation (t : Turn) (name path : String) (fields : Fields) : Prop where
  fieldless : t.outcome = .created (.error (.createFailed name "no fields to index")) ↔
    fields.toNames = []
  regionless : t.outcome =
      .created (.error (.createFailed name ("region " ++ path ++ " does not exist"))) ↔
    fields.toNames ≠ [] ∧ t.before.regions.contains path = false
  taken : t.outcome = .created (.error (.alreadyExists name path)) ↔
    fields.toNames ≠ [] ∧ t.before.regions.contains path = true ∧
      (t.before.store.indexes.get? ⟨name, path⟩).isSome = true
  created : t.outcome = .created (.ok ()) ↔
    fields.toNames ≠ [] ∧ t.before.regions.contains path = true ∧
      t.before.store.indexes.get? ⟨name, path⟩ = none
  adds : t.outcome = .created (.ok ()) → ∀ key, t.after.store.indexes.get? key =
    if key = ⟨name, path⟩ then some ⟨name, path, fields⟩ else t.before.store.indexes.get? key

/-- The fields of the handle do not matter. -/
structure Destruction (t : Turn) (index : Handle) : Prop where
  missing : t.outcome = .destroyed (.error
      (.destroyFailed index.name ("no such index on " ++ index.regionPath))) ↔
    t.before.store.indexes.get? (.of index) = none
  destroyed : t.outcome = .destroyed (.ok ()) ↔
    (t.before.store.indexes.get? (.of index)).isSome = true
  removes : t.outcome = .destroyed (.ok ()) → ∀ key, t.after.store.indexes.get? key =
    if key = .of index then none else t.before.store.indexes.get? key

structure Lawful (t : Turn) : Prop where
  creation : ∀ name path fields, t.call = .create name path fields → t.Creation name path fields
  destruction : ∀ index, t.call = .destroy index → t.Destruction index
  found : ∀ name path, t.call = .find name path →
    t.outcome = .found (t.before.store.indexes.get? ⟨name, path⟩)
  failed : t.outcome.error? ≠ none → t.after.store.indexes = t.before.store.indexes
  untouched : (∀ key, ¬ t.Touches key) → t.after.store.indexes = t.before.store.indexes
  region : ∀ path, t.call = .createRegion path →
    t.outcome = .region (t.before.regions.create path).1 ∧
      t.after = ⟨(t.before.regions.create path).2, t.before.store⟩
  regions : (∀ path, t.call ≠ .createRegion path) → t.after.regions = t.before.regions

end Turn

theorem fieldless_ne_regionless (path : String) :
    "no fields to index" ≠ "region " ++ path ++ " does not exist" := by
  intro same
  have first := congrArg (·.toList.head?) same
  simp at first

theorem Answered.creation (answered : Answered m (.create name path fields) outcome m') :
    Turn.Creation ⟨m, .create name path fields, outcome, m'⟩ name path fields := by
  have apart := fieldless_ne_regionless path
  cases answered with
  | refused refuses =>
    cases refuses with
    | fieldless bare => constructor <;> simp [bare, apart]
    | regionless some_ absent => constructor <;> simp [some_, absent, apart.symm]
    | taken some_ there known =>
      constructor <;> simp [some_, there, known, Option.isSome_iff_ne_none.mp known]
  | created some_ there free =>
    refine ⟨by simp [some_], by simp [there], by simp [free], by simp [some_, there, free],
      fun _ key => Table.get?_insert ..⟩

theorem Answered.destruction (answered : Answered m (.destroy index) outcome m') :
    Turn.Destruction ⟨m, .destroy index, outcome, m'⟩ index := by
  cases answered with
  | missed absent => constructor <;> simp [absent]
  | destroyed there =>
    refine ⟨?_, by simp [there], fun _ key => Table.get?_erase ..⟩
    simp [Option.isSome_iff_ne_none.mp there]

theorem Answered.lawful (answered : Answered m c outcome m') :
    Turn.Lawful ⟨m, c, outcome, m'⟩ := by
  constructor
  case creation => rintro name path fields rfl; exact answered.creation
  case destruction => rintro index rfl; exact answered.destruction
  case found => rintro name path rfl; cases answered; rfl
  case failed =>
    intro failed
    cases answered with
    | created | destroyed => exact absurd rfl failed
    | _ => rfl
  case untouched =>
    intro untouched
    cases answered with
    | created => exact absurd (.inl ⟨⟨_, _, _⟩, ⟨rfl, rfl⟩, rfl⟩) (untouched _)
    | destroyed => exact absurd (.inr ⟨_, rfl, rfl, rfl⟩) (untouched _)
    | _ => rfl
  case region => rintro path rfl; cases answered; exact ⟨rfl, rfl⟩
  case regions =>
    intro other
    cases answered with
    | region => exact absurd rfl (other _)
    | _ => rfl

/-- The index was created, and nothing was created or destroyed under its key since. -/
def Latest (past : List Turn) (index : Handle) : Prop :=
  ∃ earlier t later, past = earlier ++ t :: later ∧ t.Creates index ∧
    ∀ t' ∈ later, ¬ t'.Touches (.of index)

theorem latest_concat {t : Turn} : Latest (past ++ [t]) index ↔
    t.Creates index ∨ ¬ t.Touches (.of index) ∧ Latest past index := by
  constructor
  · rintro ⟨earlier, first, later, whole, creates, untouched⟩
    obtain rfl | ⟨later, last, rfl⟩ := later.eq_nil_or_concat'
    · obtain ⟨-, rfl⟩ := List.append_singleton_inj.mp whole
      exact .inl creates
    · rw [← List.cons_append, ← List.append_assoc] at whole
      obtain ⟨rfl, rfl⟩ := List.append_singleton_inj.mp whole
      exact .inr ⟨untouched t (by simp), earlier, first, later, rfl, creates,
        fun t' member => untouched t' (List.mem_append_left _ member)⟩
  · rintro (creates | ⟨untouched, earlier, first, later, rfl, creates, quiet⟩)
    · exact ⟨past, t, [], rfl, creates, by simp⟩
    · refine ⟨earlier, first, later ++ [t], by simp, creates, fun t' member => ?_⟩
      rcases List.mem_append.mp member with early | last
      · exact quiet t' early
      · exact List.mem_singleton.mp last ▸ untouched

/-- What is kept under a key after a call was created by it, or was kept before. -/
theorem Answered.get?_eq_some (answered : Answered m c outcome m') {key : IndexKey} :
    m'.store.indexes.get? key = some index ↔
      Turn.Creates ⟨m, c, outcome, m'⟩ index ∧ .of index = key ∨
        ¬ Turn.Touches ⟨m, c, outcome, m'⟩ key ∧ m.store.indexes.get? key = some index := by
  cases answered with
  | @created name path fields _ _ free =>
    rw [Table.get?_insert]
    split
    · next here =>
      constructor
      · rintro ⟨⟩
        exact .inl ⟨⟨rfl, rfl⟩, here.symm⟩
      · rintro (⟨⟨created, -⟩, -⟩ | ⟨untouched, -⟩)
        · cases index
          cases created
          rfl
        · exact absurd (.inl ⟨⟨name, path, fields⟩, ⟨rfl, rfl⟩, here.symm⟩) untouched
    · next elsewhere =>
      constructor
      · intro known
        refine .inr ⟨?_, known⟩
        rintro (⟨⟨_, _, _⟩, ⟨⟨⟩, -⟩, rfl⟩ | ⟨_, ⟨⟩, -⟩)
        exact elsewhere rfl
      · rintro (⟨⟨created, -⟩, rfl⟩ | ⟨-, known⟩)
        · cases index
          cases created
          exact absurd rfl elsewhere
        · exact known
  | @destroyed gone there =>
    rw [Table.get?_erase]
    split
    · next here =>
      constructor
      · nofun
      · rintro (⟨⟨⟨⟩, -⟩, -⟩ | ⟨untouched, -⟩)
        exact absurd (.inr ⟨gone, rfl, here.symm, rfl⟩) untouched
    · next elsewhere =>
      constructor
      · intro known
        refine .inr ⟨?_, known⟩
        rintro (⟨_, ⟨⟨⟩, -⟩, -⟩ | ⟨_, ⟨⟩, rfl, -⟩)
        exact elsewhere rfl
      · rintro (⟨⟨⟨⟩, -⟩, -⟩ | ⟨-, known⟩)
        exact known
  | _ => simp [Turn.Creates, Turn.Touches, Turn.Destroys]

/-- The path at which a region is to be created. -/
def Call.path? : Call → Option String
  | .createRegion path => some path
  | _ => none

/-- The indexes and regions after the turns, and how often the service was called. -/
structure Sound (m : Memory) (past : List Turn) : Prop where
  regions : m.regions = .ofPaths (past.filterMap (·.call.path?))
  ordered : m.store.indexes.Ordered
  covers : ∀ key index, m.store.indexes.get? key = some index →
    index.fields.toNames ≠ [] ∧ m.regions.contains index.regionPath = true
  latest : ∀ key index, m.store.indexes.get? key = some index ↔
    .of index = key ∧ Latest past index
  creates : m.store.creates = past.countP (·.call matches .create ..)
  finds : m.store.finds = past.countP (·.call matches .find ..)
  destroys : m.store.destroys = past.countP (·.call matches .destroy ..)

theorem sound_empty : Sound empty [] := by
  refine ⟨rfl, .nil, by simp [empty, IndexStore.empty], ?_, rfl, rfl, rfl⟩
  simp [Latest, empty, IndexStore.empty]

/-- No region goes. -/
theorem Answered.contains_mono (answered : Answered m c outcome m')
    (canonical : m.regions.Canonical) {p : String} (there : m.regions.contains p = true) :
    m'.regions.contains p = true := by
  cases answered with
  | @region path => exact ((Regions.create_spec canonical path).2 p).mpr (.inl there)
  | _ => exact there

theorem Sound.answered (sound : Sound m past) (answered : Answered m c outcome m') :
    Sound m' (past ++ [⟨m, c, outcome, m'⟩]) := by
  constructor
  case regions =>
    rw [List.filterMap_append]
    cases answered with
    | region =>
      rw [sound.regions]
      simp [Call.path?, Regions.ofPaths]
    | _ => simpa [Call.path?] using sound.regions
  case ordered =>
    cases answered with
    | created => exact Table.ordered_insert sound.ordered _ _
    | destroyed => exact Table.ordered_erase sound.ordered _
    | _ => exact sound.ordered
  case covers =>
    intro key index listed
    rcases answered.get?_eq_some.mp listed with ⟨⟨called, ok⟩, -⟩ | ⟨-, known⟩
    · dsimp only at called ok
      subst called ok
      cases answered with
      | created some_ there _ => exact ⟨some_, there⟩
    · have canonical : m.regions.Canonical := sound.regions ▸ Regions.canonical_ofPaths _
      obtain ⟨some_, there⟩ := sound.covers key index known
      exact ⟨some_, answered.contains_mono canonical there⟩
  case latest =>
    intro key index
    rw [answered.get?_eq_some, sound.latest, latest_concat]
    constructor
    · rintro (⟨creates, rfl⟩ | ⟨untouched, rfl, latest⟩)
      · exact ⟨rfl, .inl creates⟩
      · exact ⟨rfl, .inr ⟨untouched, latest⟩⟩
    · rintro ⟨rfl, creates | ⟨untouched, latest⟩⟩
      · exact .inl ⟨creates, rfl⟩
      · exact .inr ⟨untouched, rfl, latest⟩
  case creates => cases answered <;> simp [sound.creates]
  case finds => cases answered <;> simp [sound.finds]
  case destroys => cases answered <;> simp [sound.destroys]

theorem Sound.run (sound : Sound m past) (calls : List Call) :
    Sound (m.endFrom calls) (past ++ m.turnsFrom calls) := by
  induction calls generalizing m past with
  | nil => simpa [turnsFrom, endFrom] using sound
  | cons c calls ih =>
    simpa [turnsFrom, endFrom, turn] using ih (sound.answered (call_answered m c))

/-- What holds of the indexes after the turns. -/
structure Upholds (m : Memory) (past : List Turn) : Prop where
  regions : m.regions = .ofPaths (past.filterMap (·.call.path?))
  stored : ∀ key index, (key, index) ∈ m.store.indexes.entries → key = .of index ∧
    index.fields.toNames ≠ [] ∧ m.regions.contains index.regionPath = true
  listed : ∀ index, index ∈ m.store.handles ↔ m.store.indexes.get? (.of index) = some index
  sorted : m.store.handles.Pairwise fun a b =>
    a.name < b.name ∨ a.name = b.name ∧ a.regionPath < b.regionPath
  nodup : m.store.handles.Nodup
  latest : ∀ key index, m.store.indexes.get? key = some index ↔
    .of index = key ∧ Latest past index
  counted : m.store.calls = [past.countP (·.call matches .create ..),
    past.countP (·.call matches .find ..), past.countP (·.call matches .destroy ..)]

theorem compare_of {a b : Handle} : compare (IndexKey.of a) (IndexKey.of b) = .lt ↔
    a.name < b.name ∨ a.name = b.name ∧ a.regionPath < b.regionPath := by
  have less (s t : String) : compare s t = .lt ↔ s < t := compareOfLessAndEq_eq_lt
  have same (s t : String) : compare s t = .eq ↔ s = t := Std.compare_eq_iff_eq
  rw [← less, ← less, ← same]
  exact Ordering.then_eq_lt

theorem Sound.upholds (sound : Sound m past) : m.Upholds past := by
  have own {key : IndexKey} {index : Handle} (member : (key, index) ∈ m.store.indexes.entries) :
      key = .of index := by
    have known := (Table.mem_entries_iff sound.ordered).mp member
    exact ((sound.latest key index).mp known).1.symm
  have sorted : m.store.handles.Pairwise fun a b =>
      a.name < b.name ∨ a.name = b.name ∧ a.regionPath < b.regionPath := by
    refine List.pairwise_map.mpr (sound.ordered.imp_of_mem fun {a b} first second less => ?_)
    rwa [own first, own second, compare_of] at less
  refine ⟨sound.regions, fun key index member => ?_, fun index => ?_, sorted, ?_, sound.latest, ?_⟩
  · have known := (Table.mem_entries_iff sound.ordered).mp member
    exact ⟨own member, sound.covers key index known⟩
  · rw [← Table.mem_entries_iff sound.ordered]
    constructor
    · intro member
      obtain ⟨⟨key, _⟩, inside, rfl⟩ := List.mem_map.mp member
      exact own inside ▸ inside
    · exact fun member => List.mem_map_of_mem member
  · refine sorted.imp fun {a b} less same => ?_
    subst same
    rcases less with names | ⟨-, paths⟩
    · exact String.lt_irrefl _ names
    · exact String.lt_irrefl _ paths
  · rw [IndexStore.calls, sound.creates, sound.finds, sound.destroys]

/-- Whatever was called, each index is where it belongs and as it was created, and every call does
just what it is to do. -/
theorem store_history :
    (∀ m c, (turn m c).Lawful) ∧
      ∀ calls, (endFrom empty calls).Upholds (turnsFrom empty calls) := by
  refine ⟨fun m c => (call_answered m c).lawful, fun calls => ?_⟩
  simpa using (sound_empty.run calls).upholds

end
end Memory
end Engine

namespace Trial

open Engine Memory

/-- The first creation is too early, the second has no fields, and the fourth comes too late. -/
def restocking : List Memory.Call :=
  [.create "bins" "/depot" (.names ["id"]), .createRegion "depot",
    .create "bins" "/depot" (.names []), .create "bins" "/depot" (.names ["id"]),
    .create "bins" "/depot" (.names ["size"]), .destroy ⟨"bins", "/depot", .names []⟩,
    .destroy ⟨"bins", "/depot", .names []⟩, .create "bins" "/depot" (.names ["size"]),
    .create "aisles" "/depot" (.names ["id"]), .find "bins" "/depot"]

def restocked : Memory := endFrom .empty restocking

theorem restocked_history :
    restocked.store.handles =
        [⟨"aisles", "/depot", .names ["id"]⟩, ⟨"bins", "/depot", .names ["size"]⟩] ∧
      restocked.store.calls = [6, 1, 2] ∧
      (turnsFrom .empty restocking).filterMap (·.outcome.error?) =
        [.createFailed "bins" "region /depot does not exist",
          .createFailed "bins" "no fields to index", .alreadyExists "bins" "/depot",
          .destroyFailed "bins" "no such index on /depot"] ∧
      Latest (turnsFrom .empty restocking) ⟨"bins", "/depot", .names ["size"]⟩ ∧
      (restocked.turn (.find "bins" "/depot")).Lawful := by
  obtain ⟨lawful, upholds⟩ := store_history
  have latest := (upholds restocking).latest ⟨"bins", "/depot"⟩ ⟨"bins", "/depot", .names ["size"]⟩
  exact ⟨by decide, by decide, by decide, (latest.mp (by decide)).2, lawful restocked _⟩

end Trial
end GatedStartup
