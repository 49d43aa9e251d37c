import Mathlib.Data.List.Forall2
import Mathlib.Data.List.Nodup
import GatedStartup.Proofs.Catalogue

/-! What ensuring, destroying and registering mean for a single entry of a catalogue: what it may
gain and lose, and what stays of it from one catalogue to a later one. -/
namespace GatedStartup

open Lookup Index

theorem WellNamed.unique {entries : List Entry} {name : String} {x y : Managed}
    (well : WellNamed entries) (one : (name, x) ∈ entries) (other : (name, y) ∈ entries) : x = y :=
  congrArg Prod.snd (List.inj_on_of_nodup_map well.distinct one other rfl)

/-- What ensuring can do to an entry of that name. -/
inductive Gain (t : Transcript) (name : String) (x : Managed) : Managed → Prop where
  | same : Gain t name x x
  | bound : x.binding = none → ⟨.findIndex b.service name path, some b.handle⟩ ∈ t →
      Gain t name x { x with binding := some b }

theorem Gain.mono {t t' : Transcript} {name : String} {x x' : Managed} (gain : Gain t name x x')
    (wider : ∀ e ∈ t, e ∈ t') : Gain t' name x x' := by
  cases gain with
  | same => exact .same
  | bound unbound found => exact .bound unbound (wider _ found)

theorem Gain.of_bound {t : Transcript} {name : String} {x x' : Managed} {b : Binding}
    (gain : Gain t name x x') (bound : x.binding = some b) : x' = x := by
  cases gain with
  | same => rfl
  | bound unbound _ => simp [unbound] at bound

/-- Destroying an index of that name is refused, and the refusal is warned of. -/
def refusal (name : String) (b : Binding) (error : SearchError) : Transcript :=
  [⟨.destroyIndex b.service b.handle, .error error⟩,
    ⟨.warn (.destroyFailed name (.search error)), ()⟩]

/-- The transcript warns of no failure to destroy an index of that name. -/
def Unwarned (t : Transcript) (name : String) : Prop :=
  ∀ e ∈ t, ∀ failure, e.question ≠ .warn (.destroyFailed name failure)

theorem Unwarned.append {front rest : Transcript} {name : String} (first : Unwarned front name)
    (later : Unwarned rest name) : Unwarned (front ++ rest) name := fun e member =>
  (List.mem_append.mp member).elim (first e) (later e)

theorem Spares.unwarned {t : Transcript} {name : String} (spares : Spares .log t) :
    Unwarned t name := by
  intro e member failure warned
  exact spares e member (by rw [warned]; rfl)

/-- No index of that name is looked for. -/
def Unsought (t : Transcript) (name : String) : Prop :=
  ∀ e ∈ t, ∀ service path, e.question ≠ .findIndex service name path

theorem Unsought.append {front rest : Transcript} {name : String} (first : Unsought front name)
    (later : Unsought rest name) : Unsought (front ++ rest) name := fun e member =>
  (List.mem_append.mp member).elim (first e) (later e)

theorem Spares.unsought {t : Transcript} {name : String} (spares : Spares .search t) :
    Unsought t name := by
  intro e member service path sought
  exact spares e member (by rw [sought]; rfl)

/-- Destroying an index of that name was refused, and it was not looked for again since. -/
def RefusedSince (t : Transcript) (name : String) (b : Binding) : Prop :=
  ∃ front error rest, t = front ++ (refusal name b error ++ rest) ∧ Unsought rest name

theorem RefusedSince.extend {t last : Transcript} {name : String} {b : Binding}
    (refused : RefusedSince t name b) (quiet : Unsought last name) :
    RefusedSince (t ++ last) name b := by
  obtain ⟨front, error, rest, rfl, unsought⟩ := refused
  exact ⟨front, error, rest ++ last, by simp, unsought.append quiet⟩

theorem RefusedSince.after {t front : Transcript} {name : String} {b : Binding}
    (refused : RefusedSince t name b) : RefusedSince (front ++ t) name b := by
  obtain ⟨early, error, rest, rfl, unsought⟩ := refused
  exact ⟨front ++ early, error, rest, by simp, unsought⟩

/-- What destroying can do to an entry of that name. -/
inductive Loss (t : Transcript) (name : String) (x : Managed) : Managed → Prop where
  | spared : (x.definition.destroyOnShutdown = true → x.binding = none) → Loss t name x x
  | refused : x.definition.destroyOnShutdown = true → x.binding = some b →
      RefusedSince t name b → Loss t name x x
  | gone : x.definition.destroyOnShutdown = true → x.binding.isSome →
      Unwarned t name → Loss t name x { x with binding := none }

namespace Loss

variable {t front last : Transcript} {name : String} {x x' : Managed} {b : Binding}

theorem extend (loss : Loss t name x x') (quiet : Unwarned last name)
    (unsought : Unsought last name) : Loss (t ++ last) name x x' := by
  cases loss with
  | spared unbound => exact .spared unbound
  | refused flagged bound refused => exact .refused flagged bound (refused.extend unsought)
  | gone flagged bound unwarned => exact .gone flagged bound (unwarned.append quiet)

theorem after (loss : Loss t name x x') (quiet : Unwarned front name) :
    Loss (front ++ t) name x x' := by
  cases loss with
  | spared unbound => exact .spared unbound
  | refused flagged bound refused => exact .refused flagged bound refused.after
  | gone flagged bound unwarned => exact .gone flagged bound (quiet.append unwarned)

/-- An index that was to be destroyed is still bound only after a refusal. -/
theorem refused_of_bound (loss : Loss t name x x')
    (flagged : x'.definition.destroyOnShutdown = true) (bound : x'.binding = some b) :
    RefusedSince t name b := by
  cases loss with
  | spared unbound => simp [unbound flagged] at bound
  | refused _ before refused =>
    obtain rfl := Option.some.inj (before.symm.trans bound)
    exact refused
  | gone => simp at bound

/-- A binding stays just when the index is not to be destroyed or destroying it is refused. -/
theorem keeps_iff (loss : Loss t name x x') (bound : x.binding = some b) :
    x'.binding = some b ↔
      (x.definition.destroyOnShutdown = true → RefusedSince t name b) := by
  constructor
  · intro still flagged
    cases loss with
    | spared unbound => simp [unbound flagged] at bound
    | refused flagged' before refused =>
      obtain rfl := Option.some.inj (before.symm.trans bound)
      exact refused
    | gone => simp at still
  · intro refused
    cases loss with
    | spared | refused => exact bound
    | gone flagged _ unwarned =>
      obtain ⟨front, error, rest, rfl, -⟩ := refused flagged
      exact absurd rfl (unwarned ⟨.warn (.destroyFailed name (.search error)), ()⟩
        (by simp [refusal]) (.search error))

end Loss

/-- An entry stays under its definition, and a binding it did not have was found. -/
structure Rebound (t : Transcript) (name : String) (x x' : Managed) : Prop where
  definition : x'.definition = x.definition
  component : x'.component = x.component
  binding : ∀ b, x'.binding = some b →
    x.binding = some b ∨ ∃ path, ⟨.findIndex b.service name path, some b.handle⟩ ∈ t

theorem Rebound.refl (t : Transcript) (name : String) (x : Managed) : Rebound t name x x :=
  ⟨rfl, rfl, fun _ => .inl⟩

theorem Gain.rebound {t : Transcript} {name : String} {x x' : Managed} (gain : Gain t name x x') :
    Rebound t name x x' := by
  cases gain with
  | same => exact .refl t name x
  | @bound b path _ found =>
    refine ⟨rfl, rfl, fun b' same => .inr ⟨path, ?_⟩⟩
    cases same
    exact found

theorem Loss.rebound {t : Transcript} {name : String} {x x' : Managed} (loss : Loss t name x x')
    (t' : Transcript) : Rebound t' name x x' := by
  cases loss with
  | spared | refused => exact .refl t' name x
  | gone => exact ⟨rfl, rfl, by simp⟩

theorem Rebound.trans {t t' whole : Transcript} {name : String} {x x' x'' : Managed}
    (first : Rebound t name x x') (later : Rebound t' name x' x'')
    (early : ∀ e ∈ t, e ∈ whole) (late : ∀ e ∈ t', e ∈ whole) : Rebound whole name x x'' where
  definition := later.definition.trans first.definition
  component := later.component.trans first.component
  binding b bound := by
    rcases later.binding b bound with bound' | ⟨path, found⟩
    · rcases first.binding b bound' with before | ⟨path, found⟩
      · exact .inl before
      · exact .inr ⟨path, early _ found⟩
    · exact .inr ⟨path, late _ found⟩

/-- Entries one by one related to their successors, which have the same names. -/
def Evolved (R : String → Managed → Managed → Prop) : List Entry → List Entry → Prop :=
  List.Forall₂ fun e e' => e'.1 = e.1 ∧ R e.1 e.2 e'.2

namespace Evolved

variable {R S : String → Managed → Managed → Prop} {entries entries' : List Entry}
  {name : String} {x x' : Managed}

theorem forward (evolved : Evolved R entries entries') (member : (name, x) ∈ entries) :
    ∃ x', (name, x') ∈ entries' ∧ R name x x' := by
  induction evolved with
  | nil => contradiction
  | @cons e e' rest rest' related _ ih =>
    rcases List.mem_cons.mp member with rfl | later
    · obtain ⟨name', x'⟩ := e'
      obtain ⟨rfl, related⟩ := related
      exact ⟨x', List.mem_cons_self, related⟩
    · obtain ⟨x', inside, related⟩ := ih later
      exact ⟨x', List.mem_cons_of_mem _ inside, related⟩

theorem backward (evolved : Evolved R entries entries') (member : (name, x') ∈ entries') :
    ∃ x, (name, x) ∈ entries ∧ R name x x' := by
  induction evolved with
  | nil => contradiction
  | @cons e e' rest rest' related _ ih =>
    rcases List.mem_cons.mp member with rfl | later
    · obtain ⟨name', x⟩ := e
      obtain ⟨rfl, related⟩ := related
      exact ⟨x, List.mem_cons_self, related⟩
    · obtain ⟨x, inside, related⟩ := ih later
      exact ⟨x, List.mem_cons_of_mem _ inside, related⟩

theorem trans {T : String → Managed → Managed → Prop} {entries'' : List Entry}
    (first : Evolved R entries entries') (later : Evolved S entries' entries'')
    (compose : ∀ name x x' x'', R name x x' → S name x' x'' → T name x x'') :
    Evolved T entries entries'' := by
  induction first generalizing entries'' with
  | nil => cases later; exact .nil
  | cons related _ ih =>
    cases later with
    | cons related' rest =>
      obtain ⟨same, first⟩ := related
      obtain ⟨same', later⟩ := related'
      exact .cons ⟨same'.trans same, compose _ _ _ _ first (same ▸ later)⟩ (ih rest)

theorem names_eq (evolved : Evolved R entries entries') :
    entries'.map (·.1) = entries.map (·.1) := by
  induction evolved with
  | nil => rfl
  | cons related _ ih => simp [related.1, ih]

theorem mono (evolved : Evolved R entries entries')
    (implies : ∀ e ∈ entries, ∀ x', R e.1 e.2 x' → S e.1 e.2 x') : Evolved S entries entries' := by
  induction evolved with
  | nil => exact .nil
  | cons related _ ih =>
    exact .cons ⟨related.1, implies _ List.mem_cons_self _ related.2⟩
      (ih fun e member => implies e (List.mem_cons_of_mem _ member))

end Evolved

theorem WellNamed.rebound {t : Transcript} {entries entries' : List Entry}
    (well : WellNamed entries) (evolved : Evolved (Rebound t) entries entries') :
    WellNamed entries' := by
  refine ⟨fun e member => ?_, evolved.names_eq ▸ well.distinct⟩
  obtain ⟨x, inside, rebound⟩ := evolved.backward member
  have named := well.named _ inside
  rw [Managed.indexName, rebound.definition, rebound.component]
  exact named

namespace EnsuredEach

variable {entries entries' : List Entry} {t : Transcript}
  {result : Except Failure (List Handle)}

/-- Only what is not bound is looked for. -/
theorem seeks (ensured : EnsuredEach entries t result entries') :
    ∀ e ∈ t, ∃ entry ∈ entries, entry.2.binding = none ∧ e.question.seeks entry.1 := by
  induction ensured with
  | nil => simp
  | failed first =>
    intro e member
    cases first with
    | failed unbound sought _ => exact ⟨_, List.mem_cons_self, unbound, sought e member⟩
  | cons first _ ih =>
    intro e member
    rcases List.mem_append.mp member with early | late
    · cases first with
      | known _ => contradiction
      | bound unbound sought _ => exact ⟨_, List.mem_cons_self, unbound, sought e early⟩
    · obtain ⟨entry, inside, sought⟩ := ih e late
      exact ⟨entry, List.mem_cons_of_mem _ inside, sought⟩

theorem spares (ensured : EnsuredEach entries t result entries') {topic : Topic}
    (other : topic ≠ .search) : Spares topic t := by
  intro e member
  obtain ⟨_, _, _, sought⟩ := ensured.seeks e member
  exact sought.topic_eq ▸ other.symm

theorem not_inActivation {failure : Failure}
    (ensured : EnsuredEach entries t result entries') (failed : result = .error failure) :
    ¬ failure.InActivation := by
  induction ensured with
  | nil => contradiction
  | failed first =>
    cases failed
    cases first with
    | failed _ _ other => exact other
  | @cons _ _ _ _ _ _ _ result _ _ _ ih =>
    cases result with
    | error error =>
      cases failed
      exact ih rfl
    | ok handles => contradiction

theorem gains (ensured : EnsuredEach entries t result entries') :
    Evolved (Gain t) entries entries' := by
  induction ensured with
  | nil => exact .nil
  | failed first =>
    cases first
    exact .cons ⟨rfl, .same⟩ (List.forall₂_same.mpr fun _ _ => ⟨rfl, .same⟩)
  | cons first _ ih =>
    refine .cons ⟨rfl, ?_⟩ (ih.mono fun _ _ _ gain => gain.mono fun e => List.mem_append_right _)
    cases first with
    | known _ => exact .same
    | bound unbound _ found => exact .bound unbound (List.mem_append_left _ found)

end EnsuredEach

namespace DestroyedEach

variable {entries entries' : List Entry} {t : Transcript} {failed : Option Failure}

/-- Only indexes that are bound and to go with the process are destroyed, and only refusals to
destroy an entry are warned of. -/
theorem asked (destroyed : DestroyedEach entries t failed entries') (well : WellNamed entries) :
    ∀ e ∈ t, ∃ entry ∈ entries, entry.2.definition.destroyOnShutdown = true ∧
      ∃ b, entry.2.binding = some b ∧ (e.question = .destroyIndex b.service b.handle ∨
        ∃ failure, e.question = .warn (.destroyFailed entry.1 failure)) := by
  induction destroyed with
  | nil => simp
  | cons _ first ih =>
    intro e member
    rcases List.mem_append.mp member with early | late
    · obtain ⟨entry, inside, rest⟩ := ih well.tail e early
      exact ⟨entry, List.mem_cons_of_mem _ inside, rest⟩
    · cases first with
      | spared _ => contradiction
      | gone flagged bound =>
        obtain rfl := List.mem_singleton.mp late
        exact ⟨_, List.mem_cons_self, flagged, _, bound, .inl rfl⟩
  | failed _ first ih =>
    intro e member
    have name := well.named _ List.mem_cons_self
    cases first with
    | refused flagged bound =>
      rw [List.append_assoc, List.mem_append] at member
      rcases member with early | late
      · obtain ⟨entry, inside, rest⟩ := ih well.tail e early
        exact ⟨entry, List.mem_cons_of_mem _ inside, rest⟩
      · refine ⟨_, List.mem_cons_self, flagged, _, bound, ?_⟩
        rcases List.mem_cons.mp late with rfl | last
        · exact .inl rfl
        · obtain rfl := List.mem_singleton.mp last
          exact .inr ⟨_, by rw [Managed.displayName_eq name]⟩

theorem spares (destroyed : DestroyedEach entries t failed entries') (well : WellNamed entries)
    {topic : Topic} (other : topic ≠ .search) (unlogged : topic ≠ .log) : Spares topic t := by
  intro e member
  obtain ⟨_, _, _, _, _, asked | ⟨_, asked⟩⟩ := destroyed.asked well e member
  · exact asked ▸ other.symm
  · exact asked ▸ unlogged.symm

theorem unwarned (destroyed : DestroyedEach entries t failed entries') (well : WellNamed entries)
    {name : String} (apart : ∀ e ∈ entries, e.1 ≠ name) : Unwarned t name := by
  intro e member failure warned
  obtain ⟨entry, inside, _, _, _, asked | ⟨_, asked⟩⟩ := destroyed.asked well e member
  · simp [asked] at warned
  · simp only [asked, Request.warn.injEq, Warning.destroyFailed.injEq] at warned
    exact apart entry inside warned.1

theorem losses (destroyed : DestroyedEach entries t failed entries') (well : WellNamed entries) :
    Evolved (Loss t) entries entries' := by
  induction destroyed with
  | nil => exact .nil
  | @cons rest t failed rest' x last x' name later first ih =>
    have others : Unwarned t name :=
      later.unwarned well.tail fun e member same => well.head_apart member same.symm
    have own (name : String) : Unwarned last name := by
      cases first <;> simp [Unwarned]
    have silent (name : String) : Unsought last name := by
      cases first <;> simp [Unsought]
    refine .cons ⟨rfl, ?_⟩ ((ih well.tail).mono fun _ _ _ loss => loss.extend (own _) (silent _))
    cases first with
    | spared unbound => exact .spared unbound
    | gone flagged bound => exact .gone flagged (by simp [bound]) (others.append (own name))
  | @failed rest t failed rest' x last x' name failure later first ih =>
    cases first with
    | @refused b error flagged bound =>
      have shown : x.displayName = name :=
        Managed.displayName_eq (well.named (name, x) List.mem_cons_self)
      rw [shown, List.append_assoc]
      have refused : RefusedSince (refusal name b error) name b :=
        ⟨[], error, [], by simp, by simp [Unsought]⟩
      refine .cons ⟨rfl, .refused flagged bound refused.after⟩
        ((ih well.tail).mono fun e member _ loss => loss.extend ?_ (by simp [Unsought]))
      have apart : name ≠ e.1 := well.head_apart member
      simp [Unwarned, apart]

/-- Everything that is to go with the process is gone just when nothing failed. -/
theorem none_iff (destroyed : DestroyedEach entries t failed entries') :
    failed = none ↔
      ∀ e ∈ entries', e.2.definition.destroyOnShutdown = true → e.2.binding = none := by
  induction destroyed with
  | nil => simp
  | cons _ first ih =>
    rw [ih, List.forall_mem_cons]
    cases first with
    | spared unbound => exact (and_iff_right unbound).symm
    | gone => simp
  | failed _ first ih =>
    cases first with
    | refused flagged bound => simp [flagged, bound]

end DestroyedEach

/-- Entries stay under their names and definitions, and a binding that is new was found. -/
structure Continued (t : Transcript) (entries entries' : List Entry) : Prop where
  well : WellNamed entries → WellNamed entries'
  kept : ∀ name x, (name, x) ∈ entries → ∃ x', (name, x') ∈ entries' ∧ x'.definition = x.definition
  bound : ∀ name x' b, (name, x') ∈ entries' → x'.binding = some b →
    (∃ x, (name, x) ∈ entries ∧ x.binding = some b) ∨
      ∃ path, ⟨.findIndex b.service name path, some b.handle⟩ ∈ t

theorem Continued.refl (entries : List Entry) : Continued [] entries entries :=
  ⟨id, fun _ x member => ⟨x, member, rfl⟩, fun _ x _ member bound => .inl ⟨x, member, bound⟩⟩

theorem Evolved.continued {t : Transcript} {entries entries' : List Entry}
    (evolved : Evolved (Rebound t) entries entries') : Continued t entries entries' where
  well well := well.rebound evolved
  kept name x member := by
    obtain ⟨x', inside, rebound⟩ := evolved.forward member
    exact ⟨x', inside, rebound.definition⟩
  bound name x' b member bound := by
    obtain ⟨x, inside, rebound⟩ := evolved.backward member
    exact (rebound.binding b bound).imp (fun before => ⟨x, inside, before⟩) id

theorem Registered.continued {c c' : Catalogue} {t : Transcript} (registered : Registered c t c') :
    Continued t c.entries c'.entries where
  well := registered.well
  kept name x member := by
    rcases registered.entries with same | ⟨e, added, _⟩
    · exact ⟨x, same ▸ member, rfl⟩
    · exact ⟨x, added ▸ List.mem_append_left _ member, rfl⟩
  bound name x b member bound := by
    rcases registered.entries with same | ⟨e, added, unbound⟩
    · exact .inl ⟨x, same ▸ member, bound⟩
    · rcases List.mem_append.mp (added ▸ member) with old | new
      · exact .inl ⟨x, old, bound⟩
      · obtain rfl := List.mem_singleton.mp new
        exact absurd (unbound.symm.trans bound) (by simp)

end GatedStartup
