import GatedStartup.Proofs.IndexHistory
import GatedStartup.Proofs.StageTally

/-! All indexes of a catalogue ensured or destroyed at once, as calls on the single indexes.
Ensuring goes forward and ends at the first failure. Destroying goes backward and past failures, so
what it leaves bound is what was refused, and doing it again asks for that and nothing else. -/
namespace GatedStartup

open Index Lookup

/-- An index of a catalogue that is ensured or destroyed: what is asked and what comes of it. -/
structure Part (α : Type) where
  name : String
  before : Managed
  asked : Transcript
  result : Except Failure α
  after : Managed

namespace Part

variable {α : Type}

def entry (p : Part α) : Entry := (p.name, p.before)

def left (p : Part α) : Entry := (p.name, p.after)

def Succeeds (p : Part α) : Prop := ∃ value, p.result = .ok value

/-- A failure to destroy is warned of. -/
def warned (p : Part Unit) : Transcript :=
  match p.result with
  | .ok () => []
  | .error failure => [⟨.warn (.destroyFailed p.after.displayName failure), ()⟩]

end Part

/-- What is to be destroyed, and the service that is asked to. -/
def Exchange.doomed? (e : Event) : Option Binding :=
  match e.question with
  | .destroyIndex service handle => some ⟨handle, service⟩
  | _ => none

/-- A refusal to destroy something. -/
def Exchange.refusal? : Event → Option (Binding × SearchError)
  | ⟨.destroyIndex service handle, .error error⟩ => some (⟨handle, service⟩, error)
  | _ => none

/-- What goes with the process, if the entry is bound to something. -/
def Entry.doomed? (e : Entry) : Option Binding :=
  if e.2.definition.destroyOnShutdown then e.2.binding else none

/-- Indexes ensured one after the other. Those that are untouched are not come to. -/
structure EnsuredInTurn (k : Collaborators) (entries : List Entry) (parts : List (Part Handle))
    (untouched : List Entry) (t : Transcript) (result : Except Failure (List Handle))
    (entries' : List Entry) : Prop where
  ensured : ∀ p ∈ parts, (p.before.ensure k).Ends p.asked (p.result, p.after)
  before : entries = parts.map Part.entry ++ untouched
  after : entries' = parts.map Part.left ++ untouched
  asked : t = parts.flatMap (·.asked)
  ok : ∀ handles, result = .ok handles ↔
    untouched = [] ∧ parts.map (·.result) = handles.map .ok
  failed : ∀ failure, result = .error failure ↔ ∃ front last, parts = front ++ [last] ∧
    (∀ p ∈ front, p.Succeeds) ∧ last.result = .error failure
  bound : ∀ p ∈ parts, ∀ handle, p.result = .ok handle → p.after.bound = some handle

/-- Indexes destroyed one after the other, from the last to the first. -/
structure DestroyedInTurn (entries : List Entry) (parts : List (Part Unit)) (t : Transcript)
    (result : Except Failure Unit) (entries' : List Entry) : Prop where
  destroyed : ∀ p ∈ parts, p.before.destroy.Ends p.asked (p.result, p.after)
  before : entries = parts.map Part.entry
  after : entries' = parts.map Part.left
  asked : t = parts.reverse.flatMap fun p => p.asked ++ p.warned
  /-- All that is bound and goes with the process is to be destroyed, and each once. -/
  once : t.filterMap Exchange.doomed? = entries.reverse.filterMap Entry.doomed?
  ok : result = .ok () ↔ Unrefused t
  failed : ∀ failure, result = .error failure ↔ ∃ front service handle error rest,
    t = front ++ ⟨.destroyIndex service handle, .error error⟩ :: rest ∧ Unrefused front ∧
      failure = .search error
  /-- What stays bound though it goes with the process was refused. -/
  bound : ∀ p ∈ parts, p.before.definition.destroyOnShutdown = true → ∀ b,
    p.after.binding = some b ↔ p.before.binding = some b ∧
      ∃ error, p.asked = [⟨.destroyIndex b.service b.handle, .error error⟩]
  untouched : ∀ p ∈ parts, p.before.definition.destroyOnShutdown = false →
    p.asked = [] ∧ p.after = p.before

section

variable {entries entries' : List Entry} {t : Transcript}

theorem Part.bound_of_ok {k : Collaborators} {p : Part Handle} {handle : Handle}
    (ends : (p.before.ensure k).Ends p.asked (p.result, p.after)) (ok : p.result = .ok handle) :
    p.after.bound = some handle := by
  have answered := Managed.Answered.ensured (ok ▸ Managed.ensure_ensuring ends)
  obtain ⟨b, held, rfl⟩ := answered.bound_of_ok
  rw [Managed.bound, held]
  rfl

namespace EnsuredInTurn

variable {k : Collaborators} {p : Part Handle} {rest untouched : List Entry}
  {parts : List (Part Handle)} {result : Except Failure (List Handle)}

theorem nil : EnsuredInTurn k [] [] [] [] (.ok []) [] := by
  refine ⟨by simp, rfl, rfl, rfl, ?_, by simp, by simp⟩
  intro handles
  cases handles <;> simp

/-- The first failure ends it. -/
theorem stop {failure : Failure} (ends : (p.before.ensure k).Ends p.asked (p.result, p.after))
    (failed : p.result = .error failure) (rest : List Entry) :
    EnsuredInTurn k (p.entry :: rest) [p] rest p.asked (.error failure) (p.left :: rest) := by
  refine ⟨by simpa using ends, rfl, rfl, by simp, ?_, ?_, by simp [failed]⟩
  · intro handles
    cases handles <;> simp [failed]
  · intro failure'
    constructor
    · intro same
      exact ⟨[], p, rfl, by simp, failed.trans (Except.error.inj same ▸ rfl)⟩
    · rintro ⟨early, last, whole, -, own⟩
      obtain ⟨-, rfl⟩ :=
        List.append_singleton_inj.mp (show [] ++ [p] = early ++ [last] from whole)
      obtain rfl := Except.error.inj (failed.symm.trans own)
      rfl

/-- After a success it goes on. -/
theorem cons {t : Transcript} {rest' : List Entry} {handle : Handle}
    (ends : (p.before.ensure k).Ends p.asked (p.result, p.after)) (ok : p.result = .ok handle)
    (inTurn : EnsuredInTurn k rest parts untouched t result rest') :
    EnsuredInTurn k (p.entry :: rest) (p :: parts) untouched (p.asked ++ t)
      (result.map (handle :: ·)) (p.left :: rest') := by
  refine ⟨List.forall_mem_cons.mpr ⟨ends, inTurn.ensured⟩, by rw [inTurn.before]; rfl,
    by rw [inTurn.after]; rfl, by rw [inTurn.asked]; rfl, ?_, ?_,
    List.forall_mem_cons.mpr ⟨fun _ => Part.bound_of_ok ends, inTurn.bound⟩⟩
  · intro handles
    have grown : result.map (handle :: ·) = .ok handles ↔
        ∃ later, result = .ok later ∧ handle :: later = handles := by
      cases result <;> simp [Except.map]
    rw [grown]
    constructor
    · rintro ⟨later, same, rfl⟩
      obtain ⟨none, all⟩ := (inTurn.ok later).mp same
      exact ⟨none, by simp [ok, all]⟩
    · rintro ⟨none, all⟩
      cases handles with
      | nil => contradiction
      | cons own later =>
        obtain ⟨rfl, others⟩ := by simpa [ok] using all
        exact ⟨later, (inTurn.ok later).mpr ⟨none, others⟩, rfl⟩
  · intro failure
    constructor
    · intro same
      have failed : result = .error failure := by cases result <;> simp_all [Except.map]
      obtain ⟨early, last, rfl, all, own⟩ := (inTurn.failed failure).mp failed
      exact ⟨p :: early, last, rfl, List.forall_mem_cons.mpr ⟨⟨handle, ok⟩, all⟩, own⟩
    · rintro ⟨early, last, whole, all, own⟩
      cases early with
      | nil =>
        obtain ⟨rfl, rfl⟩ := List.cons.inj whole
        simp [ok] at own
      | cons first early =>
        obtain ⟨rfl, rfl⟩ := List.cons.inj whole
        obtain ⟨-, all⟩ := List.forall_mem_cons.mp all
        rw [(inTurn.failed failure).mpr ⟨early, last, rfl, all, own⟩]
        rfl

end EnsuredInTurn

theorem unrefused_iff : Unrefused t ↔ ∀ e ∈ t, e.refusal? = none := by
  constructor
  · intro unrefused e member
    cases refused : e.refusal? with
    | none => rfl
    | some refusal =>
      unfold Exchange.refusal? at refused
      split at refused
      · exact absurd member (unrefused _ _ _)
      · contradiction
  · intro none service handle error member
    exact absurd (none _ member) (by simp [Exchange.refusal?])

theorem Exchange.refusal?_eq_some {e : Event} {b : Binding} {error : SearchError} :
    e.refusal? = some (b, error) ↔ e = ⟨.destroyIndex b.service b.handle, .error error⟩ := by
  constructor
  · intro refused
    unfold refusal? at refused
    split at refused
    · cases refused
      rfl
    · contradiction
  · rintro rfl
    rfl

namespace Destroyed

variable {x x' : Managed} {result : Except Failure Unit}

theorem once (destroyed : Destroyed x t result x') (name : String) :
    t.filterMap Exchange.doomed? = [(name, x)].filterMap Entry.doomed? := by
  cases destroyed with
  | spared unbound =>
    by_cases flagged : x.definition.destroyOnShutdown = true
    · simp [Entry.doomed?, unbound flagged]
    · simp [Entry.doomed?, flagged]
  | refused flagged bound | gone flagged bound =>
    simp [Entry.doomed?, Exchange.doomed?, flagged, bound]

theorem remaining (destroyed : Destroyed x t result x') (name : String) :
    [(name, x')].filterMap Entry.doomed? = (t.filterMap Exchange.refusal?).map (·.1) := by
  cases destroyed with
  | spared unbound =>
    by_cases flagged : x.definition.destroyOnShutdown = true
    · simp [Entry.doomed?, unbound flagged]
    · simp [Entry.doomed?, flagged]
  | refused flagged bound => simp [Entry.doomed?, Exchange.refusal?, flagged, bound]
  | gone => simp [Entry.doomed?, Exchange.refusal?]

/-- What stays bound though it goes with the process was refused. -/
theorem binding_iff (destroyed : Destroyed x t result x')
    (flagged : x.definition.destroyOnShutdown = true) (b : Binding) :
    x'.binding = some b ↔ x.binding = some b ∧
      ∃ error, t = [⟨.destroyIndex b.service b.handle, .error error⟩] := by
  cases destroyed with
  | spared unbound => simp [unbound flagged]
  | @refused b' error _ bound =>
    constructor
    · intro held
      obtain rfl := Option.some.inj (bound.symm.trans held)
      exact ⟨bound, error, rfl⟩
    · exact And.left
  | gone => simp

theorem untouched (destroyed : Destroyed x t result x')
    (unflagged : x.definition.destroyOnShutdown = false) : t = [] ∧ x' = x := by
  cases destroyed with
  | spared => exact ⟨rfl, rfl⟩
  | refused flagged | gone flagged => simp [unflagged] at flagged

end Destroyed

namespace DestroyedEach

variable {failed : Option Failure}

theorem once (destroyed : DestroyedEach entries t failed entries') :
    t.filterMap Exchange.doomed? = entries.reverse.filterMap Entry.doomed? := by
  induction destroyed with
  | nil => rfl
  | @cons _ _ _ _ _ _ _ name _ first ih =>
    rw [List.filterMap_append, ih, first.once name, List.reverse_cons, List.filterMap_append]
  | @failed _ _ _ _ _ _ _ name _ _ first ih =>
    rw [List.filterMap_append, List.filterMap_append, ih, first.once name, List.reverse_cons,
      List.filterMap_append]
    exact List.append_nil _

theorem remaining (destroyed : DestroyedEach entries t failed entries') :
    entries'.reverse.filterMap Entry.doomed? = (t.filterMap Exchange.refusal?).map (·.1) := by
  induction destroyed with
  | nil => rfl
  | @cons _ _ _ _ _ _ _ name _ first ih =>
    rw [List.filterMap_append, List.map_append, ← ih, ← first.remaining name, List.reverse_cons,
      List.filterMap_append]
  | @failed _ _ _ _ _ _ _ name _ _ first ih =>
    rw [List.filterMap_append, List.filterMap_append, List.map_append, List.map_append, ← ih,
      ← first.remaining name, List.reverse_cons, List.filterMap_append]
    exact (List.append_nil _).symm

/-- The failure that is reported is the first refusal. -/
theorem failed_eq (destroyed : DestroyedEach entries t failed entries') :
    failed = (t.findSome? Exchange.refusal?).map fun refusal => .search refusal.2 := by
  induction destroyed with
  | nil => rfl
  | cons _ first ih =>
    rw [List.findSome?_append, ih]
    cases first <;> simp [Exchange.refusal?]
  | @failed rest t failed rest' x last x' name failure _ first ih =>
    rw [List.findSome?_append, List.findSome?_append, ih]
    cases first with
    | refused =>
      cases t.findSome? Exchange.refusal? <;> simp [Exchange.refusal?]

end DestroyedEach

namespace Index.Catalogue

variable {k : Collaborators}

theorem ensureEntries_inTurn {result : Except Failure (List Handle)}
    (ends : (ensureEntries k entries).Ends t (result, entries')) :
    ∃ parts untouched, EnsuredInTurn k entries parts untouched t result entries' := by
  induction entries generalizing t result entries' with
  | nil =>
    obtain ⟨rfl, rfl, rfl⟩ := by simpa [ensureEntries] using ends
    exact ⟨[], [], .nil⟩
  | cons e rest ih =>
    obtain ⟨name, x⟩ := e
    obtain ⟨front, ⟨answer, x'⟩, later, rfl, first, ends'⟩ := Program.ends_bind.mp ends
    let p : Part Handle := ⟨name, x, front, answer, x'⟩
    cases answer with
    | error failure =>
      obtain ⟨rfl, rfl, rfl⟩ := by simpa using ends'
      rw [List.append_nil]
      exact ⟨[p], rest, .stop (p := p) first rfl rest⟩
    | ok handle =>
      obtain ⟨middle, ⟨results, rest'⟩, _, rfl, second, done⟩ := Program.ends_bind.mp ends'
      obtain ⟨rfl, rfl, rfl⟩ := by simpa using done
      obtain ⟨parts, untouched, inTurn⟩ := ih second
      rw [List.append_nil]
      exact ⟨p :: parts, untouched, .cons (p := p) first rfl inTurn⟩

theorem destroyEntries_parts {failed : Option Failure}
    (ends : (destroyEntries entries).Ends t (failed, entries')) :
    ∃ parts : List (Part Unit), (∀ p ∈ parts, p.before.destroy.Ends p.asked (p.result, p.after)) ∧
      entries = parts.map Part.entry ∧ entries' = parts.map Part.left ∧
        t = parts.reverse.flatMap fun p => p.asked ++ p.warned := by
  induction entries generalizing t failed entries' with
  | nil =>
    obtain ⟨rfl, rfl, rfl⟩ := by simpa [destroyEntries] using ends
    exact ⟨[], by simp, rfl, rfl, rfl⟩
  | cons e rest ih =>
    obtain ⟨name, x⟩ := e
    obtain ⟨front, ⟨earlier, rest'⟩, later, rfl, first, ends'⟩ := Program.ends_bind.mp ends
    obtain ⟨last, ⟨answer, x'⟩, warned, rfl, second, ends''⟩ := Program.ends_bind.mp ends'
    obtain ⟨parts, each, rfl, rfl, rfl⟩ := ih first
    have own : entries' = (name, x') :: parts.map Part.left ∧
        warned = (⟨name, x, last, answer, x'⟩ : Part Unit).warned := by
      cases answer with
      | ok =>
        obtain ⟨rfl, rfl, rfl⟩ := by simpa using ends''
        exact ⟨rfl, rfl⟩
      | error failure =>
        obtain ⟨_, _, rfl, done⟩ := ends_ask_bind.mp ends''
        obtain ⟨rfl, rfl, rfl⟩ := by simpa using done
        exact ⟨rfl, rfl⟩
    obtain ⟨rfl, rfl⟩ := own
    exact ⟨⟨name, x, last, answer, x'⟩ :: parts, List.forall_mem_cons.mpr ⟨second, each⟩, rfl, rfl,
      by simp⟩

theorem ensureAll_inTurn {c c' : Catalogue} {result : Except Failure (List Handle)}
    (ends : (c.ensureAll k).Ends t (result, c')) :
    ∃ parts untouched, EnsuredInTurn k c.entries parts untouched t result c'.entries := by
  obtain ⟨front, ⟨results, entries⟩, rest, rfl, first, done⟩ := Program.ends_bind.mp ends
  obtain ⟨rfl, rfl, rfl⟩ := by simpa using done
  simpa using ensureEntries_inTurn first

theorem destroyAll_inTurn {c c' : Catalogue} {result : Except Failure Unit}
    (ends : c.destroyAll.Ends t (result, c')) :
    ∃ parts, DestroyedInTurn c.entries parts t result c'.entries := by
  obtain ⟨failed, each, rfl⟩ := destroyAll_ends ends
  obtain ⟨front, ⟨answer, entries⟩, rest, rfl, first, done⟩ := Program.ends_bind.mp ends
  obtain ⟨rfl, rfl⟩ : rest = [] ∧ c' = ⟨entries⟩ := by
    cases answer <;> simp_all
  obtain ⟨parts, destroyed, before, after, asked⟩ := destroyEntries_parts first
  rw [List.append_nil] at each ⊢
  refine ⟨parts, destroyed, before, after, asked, each.once, ?_, ?_, ?_, ?_⟩
  · rw [each.failed_eq, unrefused_iff, ← List.findSome?_eq_none_iff]
    cases front.findSome? Exchange.refusal? <;> simp
  · intro failure
    rw [each.failed_eq]
    constructor
    · intro same
      cases found : front.findSome? Exchange.refusal? with
      | none => simp [found] at same
      | some refusal =>
        obtain ⟨early, e, later, rfl, own, quiet⟩ := List.findSome?_eq_some_iff.mp found
        rw [Exchange.refusal?_eq_some.mp own]
        refine ⟨early, _, _, _, later, rfl, unrefused_iff.mpr quiet, ?_⟩
        simpa [found] using same.symm
    · rintro ⟨early, service, handle, error, later, rfl, quiet, rfl⟩
      have none := List.findSome?_eq_none_iff.mpr (unrefused_iff.mp quiet)
      rw [List.findSome?_append, none]
      rfl
  · intro p member
    exact (Managed.destroy_ends (destroyed p member)).binding_iff
  · intro p member
    exact (Managed.destroy_ends (destroyed p member)).untouched

/-- Ensuring and destroying all indexes comes to ensuring and destroying them in turn, and what a
second attempt to destroy them asks for is what the first one was refused. -/
theorem each_in_turn (k : Collaborators) (c : Catalogue) :
    (∀ t result c', (c.ensureAll k).Ends t (result, c') →
      ∃ parts untouched, EnsuredInTurn k c.entries parts untouched t result c'.entries) ∧
    ∀ t result c', c.destroyAll.Ends t (result, c') →
      (∃ parts, DestroyedInTurn c.entries parts t result c'.entries) ∧
        ∀ t' result' c'', c'.destroyAll.Ends t' (result', c'') →
          t'.filterMap Exchange.doomed? = (t.filterMap Exchange.refusal?).map (·.1) := by
  refine ⟨fun t result c' ends => ensureAll_inTurn ends, fun t result c' ends =>
    ⟨destroyAll_inTurn ends, fun t' result' c'' again => ?_⟩⟩
  obtain ⟨_, first, -⟩ := destroyAll_ends ends
  obtain ⟨_, second, -⟩ := destroyAll_ends again
  rw [second.once, first.remaining]

end Index.Catalogue

end

namespace Trial

open Catalogue Rehearsal

/-- An entry that is bound to an index on the region of the orders. -/
def shelved (name : String) (goes : Bool) : Entry :=
  (name, ⟨{ orders with name := name, destroyOnShutdown := goes }, none,
    some ⟨⟨name, "/orders", .names ["id"]⟩, theService⟩⟩)

/-- The store knows the index of the orders alone, and nothing can be bound to the stray one. -/
def stockroom : Catalogue :=
  ⟨[shelved "parcels" true, shelved "orders" true, shelved "bins" false,
    ("astray", .unbound { astray with destroyOnShutdown := true } none), shelved "returns" true]⟩

/-- The last index is refused first, and the two that are refused stay with the one that is kept. -/
theorem stockroom_in_turn :
    ((stockroom.ensureAll collaborators).run setting.surroundings (stage "orders")).1.1 =
        .error (.configuration .missingRegion) ∧
      (stockroom.destroyAll.run setting.surroundings (stage "orders")).1.1 =
        .error (.search (.destroyFailed "returns" "no such index on /orders")) ∧
      ((stockroom.destroyAll.run setting.surroundings (stage "orders")).1.2.entries.map fun e =>
        e.2.binding.isSome) = [true, false, true, false, true] ∧
      (∃ parts untouched, EnsuredInTurn collaborators stockroom.entries parts untouched
        ((stockroom.ensureAll collaborators).events setting.surroundings (stage "orders"))
        ((stockroom.ensureAll collaborators).run setting.surroundings (stage "orders")).1.1
        ((stockroom.ensureAll collaborators).run setting.surroundings (stage "orders")).1.2.entries) ∧
      ∃ parts, DestroyedInTurn stockroom.entries parts
        (stockroom.destroyAll.events setting.surroundings (stage "orders"))
        (stockroom.destroyAll.run setting.surroundings (stage "orders")).1.1
        (stockroom.destroyAll.run setting.surroundings (stage "orders")).1.2.entries := by
  obtain ⟨ensured, destroyed⟩ := each_in_turn collaborators stockroom
  exact ⟨rfl, rfl, rfl, ensured _ _ _ (Program.ends_events ..),
    (destroyed _ _ _ (Program.ends_events ..)).1⟩

end Trial
end GatedStartup
