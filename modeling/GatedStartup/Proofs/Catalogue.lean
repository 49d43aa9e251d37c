import GatedStartup.Index.Catalogue
import GatedStartup.Proofs.ManagedIndex

/-! What registering, ensuring and destroying can do to a catalogue, entry by entry. -/
namespace GatedStartup

open Lookup Index

abbrev Entry := String × Managed

/-- All that ensuring entries in order can do. -/
inductive EnsuredEach :
    List Entry → Transcript → Except Failure (List Handle) → List Entry → Prop where
  | nil : EnsuredEach [] [] (.ok []) []
  | failed {failure : Failure} : Ensured name x t (.error failure) x' →
      EnsuredEach ((name, x) :: rest) t (.error failure) ((name, x') :: rest)
  | cons : Ensured name x front (.ok handle) x' → EnsuredEach rest t result rest' →
      EnsuredEach ((name, x) :: rest) (front ++ t) (result.map (handle :: ·)) ((name, x') :: rest')

/-- All that destroying entries, last first, can do. -/
inductive DestroyedEach : List Entry → Transcript → Option Failure → List Entry → Prop where
  | nil : DestroyedEach [] [] none []
  | cons : DestroyedEach rest t failed rest' → Destroyed x last (.ok ()) x' →
      DestroyedEach ((name, x) :: rest) (t ++ last) failed ((name, x') :: rest')
  | failed {failure : Failure} : DestroyedEach rest t failed rest' →
      Destroyed x last (.error failure) x' →
      DestroyedEach ((name, x) :: rest)
        (t ++ last ++ [⟨.warn (.destroyFailed x'.displayName failure), ()⟩])
        (failed.or (some failure)) ((name, x') :: rest')

/-- Each entry goes by its own resolved name, and no name is used twice. -/
structure WellNamed (entries : List Entry) : Prop where
  named : ∀ e ∈ entries, e.2.indexName = .ok e.1
  distinct : (entries.map (·.1)).Nodup

/-- What registering does: it adds an unbound entry at the end, if it changes anything. -/
structure Registered (c : Catalogue) (t : Transcript) (c' : Catalogue) : Prop where
  logged : ∀ e ∈ t, e.question.topic = .log
  well : WellNamed c.entries → WellNamed c'.entries
  entries : c'.entries = c.entries ∨
    ∃ e : Entry, c'.entries = c.entries ++ [e] ∧ e.2.binding = none

theorem Registered.refl (c : Catalogue) : Registered c [] c := ⟨by simp, id, .inl rfl⟩

theorem Registered.spares {c c' : Catalogue} {t : Transcript} (registered : Registered c t c')
    {topic : Topic} (other : topic ≠ .log) : Spares topic t :=
  spares_of_logged registered.logged other

theorem WellNamed.tail {e : Entry} {rest : List Entry} (well : WellNamed (e :: rest)) :
    WellNamed rest :=
  ⟨fun e member => well.named e (List.mem_cons_of_mem _ member),
    (List.nodup_cons.mp well.distinct).2⟩

theorem WellNamed.head_apart {e e' : Entry} {rest : List Entry} (well : WellNamed (e :: rest))
    (member : e' ∈ rest) : e.1 ≠ e'.1 := by
  intro same
  apply (List.nodup_cons.mp well.distinct).1
  exact List.mem_map.mpr ⟨e', member, same.symm⟩

namespace Index.Catalogue

variable {k : Collaborators} {entries entries' : List Entry} {t : Transcript}

theorem ensureEntries_ends {result : Except Failure (List Handle)} (well : WellNamed entries)
    (ends : (ensureEntries k entries).Ends t (result, entries')) :
    EnsuredEach entries t result entries' := by
  induction entries generalizing t result entries' with
  | nil =>
    obtain ⟨rfl, rfl, rfl⟩ := by simpa [ensureEntries] using ends
    exact .nil
  | cons e rest ih =>
    obtain ⟨name, x⟩ := e
    obtain ⟨front, ⟨answer, x'⟩, later, rfl, first, ends'⟩ := Program.ends_bind.mp ends
    have ensured := Managed.ensure_ends (well.named _ List.mem_cons_self) first
    cases answer with
    | error failure =>
      obtain ⟨rfl, rfl, rfl⟩ := by simpa using ends'
      simpa using EnsuredEach.failed ensured
    | ok handle =>
      obtain ⟨middle, ⟨handles, rest'⟩, _, rfl, second, done⟩ := Program.ends_bind.mp ends'
      obtain ⟨rfl, rfl, rfl⟩ := by simpa using done
      simpa using EnsuredEach.cons ensured (ih well.tail second)

theorem destroyEntries_ends {failed : Option Failure}
    (ends : (destroyEntries entries).Ends t (failed, entries')) :
    DestroyedEach entries t failed entries' := by
  induction entries generalizing t failed entries' with
  | nil =>
    obtain ⟨rfl, rfl, rfl⟩ := by simpa [destroyEntries] using ends
    exact .nil
  | cons e rest ih =>
    obtain ⟨name, x⟩ := e
    obtain ⟨front, ⟨earlier, rest'⟩, later, rfl, first, ends'⟩ := Program.ends_bind.mp ends
    obtain ⟨last, ⟨answer, x'⟩, warned, rfl, second, ends''⟩ := Program.ends_bind.mp ends'
    have destroyed := Managed.destroy_ends second
    cases answer with
    | ok =>
      obtain ⟨rfl, rfl, rfl⟩ := by simpa using ends''
      simpa using DestroyedEach.cons (ih first) destroyed
    | error failure =>
      obtain ⟨_, _, rfl, done⟩ := ends_ask_bind.mp ends''
      obtain ⟨rfl, rfl, rfl⟩ := by simpa using done
      have failed : DestroyedEach ((name, x) :: rest) _ _ ((name, x') :: rest') :=
        .failed (ih first) destroyed
      simpa using failed

variable {c c' : Catalogue}

theorem ensureAll_ends {result : Except Failure (List Handle)} (well : WellNamed c.entries)
    (ends : (c.ensureAll k).Ends t (result, c')) :
    EnsuredEach c.entries t result c'.entries := by
  obtain ⟨front, ⟨handles, entries⟩, rest, rfl, ensured, done⟩ := Program.ends_bind.mp ends
  obtain ⟨rfl, rfl, rfl⟩ := by simpa using done
  simpa using ensureEntries_ends well ensured

theorem destroyAll_ends {result : Except Failure Unit}
    (ends : c.destroyAll.Ends t (result, c')) :
    ∃ failed, DestroyedEach c.entries t failed c'.entries ∧
      result = failed.elim (.ok ()) .error := by
  obtain ⟨front, ⟨failed, entries⟩, rest, rfl, destroyed, done⟩ := Program.ends_bind.mp ends
  refine ⟨failed, ?_⟩
  cases failed with
  | none =>
    obtain ⟨rfl, rfl, rfl⟩ := by simpa using done
    exact ⟨by simpa using destroyEntries_ends destroyed, rfl⟩
  | some failure =>
    obtain ⟨rfl, rfl, rfl⟩ := by simpa using done
    exact ⟨by simpa using destroyEntries_ends destroyed, rfl⟩

theorem register_ends {component : String} {d : Definition}
    {result : Except ConfigurationError Entry}
    (ends : (c.register component d).Ends t (result, c')) : Registered c t c' := by
  simp only [register] at ends
  split at ends
  · obtain ⟨rfl, rfl, rfl⟩ := by simpa using ends
    exact .refl c'
  · next name resolved =>
    split at ends
    · next absent =>
      obtain ⟨rfl, rfl, rfl⟩ := by simpa using ends
      refine ⟨by simp, fun well => ⟨?_, ?_⟩, .inr ⟨_, rfl, rfl⟩⟩
      · intro e member
        rcases List.mem_append.mp member with old | new
        · exact well.named e old
        · obtain rfl := List.mem_singleton.mp new
          exact resolved
      · have apart : ∀ e ∈ c.entries, name ≠ e.1 := by
          simpa [get?, List.lookup_eq_none_iff] using absent
        simp only [List.map_append, List.map_cons, List.map_nil, List.nodup_append]
        refine ⟨well.distinct, by simp, ?_⟩
        intro old inside new last
        obtain ⟨e, member, rfl⟩ := List.mem_map.mp inside
        obtain rfl := List.mem_singleton.mp last
        exact (apart e member).symm
    · split at ends
      · obtain ⟨rfl, rfl, rfl⟩ := by simpa using ends
        exact .refl c'
      · obtain ⟨_, rest, rfl, done⟩ := ends_ask_bind.mp ends
        obtain ⟨rfl, rfl, rfl⟩ := by simpa using done
        exact ⟨by simp [Request.topic], id, .inl rfl⟩

end Index.Catalogue

end GatedStartup
