import GatedStartup.Proofs.CatalogueHistory

/-! Definitions that agree, put in each other's place. An index behaves the same under either, and
so does a catalogue that has it. What is asked is the same, and so is what comes of it, whatever the
answers. -/
namespace GatedStartup

open Index Lookup
open Scripted.Session (replaceEntry)

namespace Program

variable {Q : Type} {Answer : Q → Type} {α β γ δ : Type} {R : α → β → Prop}

/-- Both ask the same, and told the same they end with related values. -/
inductive Alike (R : α → β → Prop) : Program Answer α → Program Answer β → Prop where
  | done {a : α} {b : β} : R a b → Alike R (.done a) (.done b)
  | ask {question : Q} {next : Answer question → Program Answer α}
      {next' : Answer question → Program Answer β} :
      (∀ answer, Alike R (next answer) (next' answer)) →
      Alike R (.ask question next) (.ask question next')

/-- The same answer, with related states left behind. -/
inductive Leaves {σ : Type} (R : σ → σ → Prop) : α × σ → α × σ → Prop where
  | both {answer : α} {s s' : σ} : R s s' → Leaves R (answer, s) (answer, s')

namespace Alike

theorem pure {a : α} {b : β} (related : R a b) :
    Alike R (pure a : Program Answer α) (Pure.pure b) := .done related

theorem refl {R : α → α → Prop} (own : ∀ a, R a a) (p : Program Answer α) : Alike R p p := by
  induction p with
  | done a => exact .done (own a)
  | ask question next ih => exact .ask ih

theorem bind {S : γ → δ → Prop} {p : Program Answer α} {q : Program Answer β}
    {f : α → Program Answer γ} {g : β → Program Answer δ} (alike : Alike R p q)
    (later : ∀ a b, R a b → Alike S (f a) (g b)) : Alike S (p >>= f) (q >>= g) := by
  induction alike with
  | done related => exact later _ _ related
  | ask _ ih => exact .ask ih

/-- What goes on from the same value. -/
theorem after {S : γ → δ → Prop} (p : Program Answer α) {f : α → Program Answer γ}
    {g : α → Program Answer δ} (later : ∀ a, Alike S (f a) (g a)) :
    Alike S (p >>= f) (p >>= g) :=
  (refl (fun _ => rfl) p).bind fun a _ same => same ▸ later a

theorem eq {p q : Program Answer α} (alike : Alike Eq p q) : p = q := by
  induction alike with
  | done same => rw [same]
  | ask _ ih => rw [funext ih]

end Alike
end Program

namespace Index.Definition

variable {d e : Definition}

theorem agrees_iff : d.agrees e = true ↔
    d.region.map (·.fullPath) = e.region.map (·.fullPath) ∧
      d.configuredPath? = e.configuredPath? ∧ d.coverage = e.coverage ∧
        d.destroyOnShutdown = e.destroyOnShutdown := by
  simp [agrees, and_assoc]

theorem equivalence_agrees : Equivalence fun d e : Definition => d.agrees e = true where
  refl d := agrees_iff.mpr ⟨rfl, rfl, rfl, rfl⟩
  symm same := by
    obtain ⟨region, path, coverage, flagged⟩ := agrees_iff.mp same
    exact agrees_iff.mpr ⟨region.symm, path.symm, coverage.symm, flagged.symm⟩
  trans first second := by
    obtain ⟨region, path, coverage, flagged⟩ := agrees_iff.mp first
    obtain ⟨region', path', coverage', flagged'⟩ := agrees_iff.mp second
    exact agrees_iff.mpr ⟨region.trans region', path.trans path', coverage.trans coverage',
      flagged.trans flagged'⟩

/-- Definitions that agree agree with the same. -/
theorem agrees_eq (same : d.agrees e = true) (other : Definition) :
    d.agrees other = e.agrees other := by
  rw [Bool.eq_iff_iff]
  exact ⟨equivalence_agrees.trans (equivalence_agrees.symm same), equivalence_agrees.trans same⟩

end Index.Definition

/-- The path of a region is found by what definitions agree in. -/
theorem Lookup.Collaborators.resolveRegionPath_eq {d e : Definition} (k : Collaborators)
    (same : d.agrees e = true) : k.resolveRegionPath d = k.resolveRegionPath e := by
  obtain ⟨region, path, -, -⟩ := Definition.agrees_iff.mp same
  have looked : k.regionAtPath d = k.regionAtPath e := by rw [regionAtPath, regionAtPath, path]
  have full : k.fullPath d = k.fullPath e := by
    rw [fullPath, fullPath, resolveRegion, resolveRegion, regionChain, regionChain,
      Chain.resolve_value, Chain.resolve_value, looked]
    cases own : d.region <;> cases other : e.region <;> simp_all
  rw [resolveRegionPath, resolveRegionPath, regionPathChain, regionPathChain, full, path]

namespace Index.Managed

/-- The indexes have the same name and definitions that agree, and are bound to the same. -/
structure Interchangeable (x y : Managed) : Prop where
  agree : x.definition.agrees y.definition = true
  name : x.definition.indexName? x.component = y.definition.indexName? y.component
  binding : x.binding = y.binding

variable {x y : Managed}

theorem Interchangeable.refl (x : Managed) : Interchangeable x x :=
  ⟨Definition.equivalence_agrees.refl _, rfl, rfl⟩

theorem Interchangeable.indexName_eq (same : Interchangeable x y) : x.indexName = y.indexName := by
  rw [indexName, indexName, same.name]

theorem Interchangeable.displayName_eq (same : Interchangeable x y) :
    x.displayName = y.displayName := by
  rw [displayName, displayName, same.name]

theorem indexName?_eq (same : x.indexName = y.indexName) :
    x.definition.indexName? x.component = y.definition.indexName? y.component := by
  unfold indexName at same
  split at same <;> split at same <;> simp_all

theorem Interchangeable.rebind (same : Interchangeable x y) (binding : Option Binding) :
    Interchangeable { x with binding := binding } { y with binding := binding } :=
  ⟨same.agree, same.name, rfl⟩

namespace Interchangeable

theorem acquire_eq (k : Collaborators) (same : Interchangeable x y) : acquire k x = acquire k y := by
  obtain ⟨-, -, coverage, -⟩ := Definition.agrees_iff.mp same.agree
  rw [acquire, acquire, same.indexName_eq, k.resolveRegionPath_eq same.agree, coverage]

theorem ensure (k : Collaborators) (same : Interchangeable x y) :
    (x.ensure k).Alike (Program.Leaves Interchangeable) (y.ensure k) := by
  rw [Managed.ensure, Managed.ensure, ← same.binding, same.acquire_eq]
  cases x.binding with
  | some binding => exact .pure (.both same)
  | none =>
    refine .after _ fun acquired => ?_
    cases acquired with
    | error error => exact .pure (.both same)
    | ok binding => exact .pure (.both (same.rebind _))

theorem destroy (same : Interchangeable x y) : x.destroy.Alike (Program.Leaves Interchangeable) y.destroy := by
  obtain ⟨-, -, -, flagged⟩ := Definition.agrees_iff.mp same.agree
  rw [Managed.destroy, Managed.destroy, ← same.binding, flagged]
  split
  · cases x.binding with
    | none => exact .pure (.both same)
    | some binding =>
      refine .after _ fun answer => ?_
      cases answer with
      | error error => exact .pure (.both same)
      | ok => exact .pure (.both (same.rebind _))
  · exact .pure (.both same)

theorem call (k : Collaborators) (same : Interchangeable x y) (c : Call) :
    (x.call k c).Alike (Program.Leaves Interchangeable) (y.call k c) := by
  cases c with
  | ensure =>
    refine (same.ensure k).bind ?_
    rintro _ _ ⟨same'⟩
    exact .pure (.both same')
  | destroy =>
    refine same.destroy.bind ?_
    rintro _ _ ⟨same'⟩
    exact .pure (.both same')
  | bound =>
    have bound : x.bound = y.bound := by rw [Managed.bound, Managed.bound, same.binding]
    rw [Managed.call, Managed.call, bound]
    exact .pure (.both same)

end Interchangeable

/-- What calls come to, one after another. -/
def outcomes : List (Collaborators × Call) → Managed → Work (List Outcome)
  | [], _ => pure []
  | (k, c) :: calls, x => do
    let (outcome, y) ← x.call k c
    let later ← outcomes calls y
    pure (outcome :: later)

theorem Interchangeable.outcomes_eq (same : Interchangeable x y)
    (calls : List (Collaborators × Call)) : x.outcomes calls = y.outcomes calls := by
  induction calls generalizing x y with
  | nil => rfl
  | cons first calls ih =>
    refine ((same.call first.1 first.2).bind ?_).eq
    rintro _ _ ⟨same'⟩
    simp only [ih same']
    exact .refl (fun _ => rfl) _

end Index.Managed

namespace Index.Catalogue

/-- The same names, with an interchangeable index under each. -/
abbrev Matched : List Entry → List Entry → Prop := Evolved fun _ => Managed.Interchangeable

/-- What is handed out by name is interchangeable, all else the same. -/
inductive Outcome.Alike : Outcome → Outcome → Prop where
  | same (outcome : Outcome) : Alike outcome outcome
  | registered {name : String} {x y : Managed} : Managed.Interchangeable x y →
      Alike (.registered (.ok (name, x))) (.registered (.ok (name, y)))
  | found {found found' : Option Managed} : Option.Rel Managed.Interchangeable found found' →
      Alike (.found found) (.found found')

/-- What catalogues answer is alike, and what is left of them matches. -/
inductive Replies : Outcome × Catalogue → Outcome × Catalogue → Prop where
  | both {outcome outcome' : Outcome} {c c' : Catalogue} : outcome.Alike outcome' →
      Matched c.entries c'.entries → Replies (outcome, c) (outcome', c')

variable {k : Collaborators} {c c' : Catalogue} {entries entries' : List Entry} {x y : Managed}

theorem Matched.refl (entries : List Entry) : Matched entries entries :=
  List.forall₂_same.mpr fun e _ => ⟨rfl, .refl e.2⟩

theorem Matched.lookup (matched : Matched entries entries') (name : String) :
    Option.Rel Managed.Interchangeable (entries.lookup name) (entries'.lookup name) := by
  induction matched with
  | nil => exact .none
  | @cons e e' rest rest' related _ ih =>
    obtain ⟨_, x⟩ := e
    obtain ⟨own, y⟩ := e'
    obtain ⟨rfl, same⟩ := related
    rw [List.lookup_cons, List.lookup_cons]
    cases name == own with
    | true => exact .some same
    | false => exact ih

theorem Matched.concat (matched : Matched entries entries') (e : Entry) :
    Matched (entries ++ [e]) (entries' ++ [e]) :=
  List.rel_append matched (Matched.refl [e])

theorem Matched.replaceEntry (matched : Matched c.entries c'.entries) (name : String)
    (same : Managed.Interchangeable x y) :
    Matched (replaceEntry name x c).entries (replaceEntry name y c').entries := by
  refine List.forall₂_map_left_iff.mpr (List.forall₂_map_right_iff.mpr (matched.imp ?_))
  rintro ⟨_, z⟩ ⟨own, z'⟩ ⟨rfl, related⟩
  by_cases here : own = name
  · simpa [here] using same
  · simpa [here] using related

theorem Matched.ensureEntries (k : Collaborators) (matched : Matched entries entries') :
    (ensureEntries k entries).Alike (Program.Leaves Matched) (ensureEntries k entries') := by
  induction matched with
  | nil => exact .pure (.both .nil)
  | @cons e e' rest rest' related others ih =>
    obtain ⟨_, x⟩ := e
    obtain ⟨name, y⟩ := e'
    obtain ⟨rfl, same⟩ := related
    refine (same.ensure k).bind ?_
    rintro _ _ @⟨answer, x', y', same'⟩
    cases answer with
    | error error => exact .pure (.both (.cons ⟨rfl, same'⟩ others))
    | ok handle =>
      refine ih.bind ?_
      rintro _ _ ⟨matched'⟩
      exact .pure (.both (.cons ⟨rfl, same'⟩ matched'))

theorem Matched.destroyEntries (matched : Matched entries entries') :
    (destroyEntries entries).Alike (Program.Leaves Matched) (destroyEntries entries') := by
  induction matched with
  | nil => exact .pure (.both .nil)
  | @cons e e' rest rest' related others ih =>
    obtain ⟨_, x⟩ := e
    obtain ⟨name, y⟩ := e'
    obtain ⟨rfl, same⟩ := related
    refine ih.bind ?_
    rintro _ _ ⟨matched'⟩
    refine same.destroy.bind ?_
    rintro _ _ @⟨answer, x', y', same'⟩
    cases answer with
    | ok => exact .pure (.both (.cons ⟨rfl, same'⟩ matched'))
    | error error =>
      dsimp only
      rw [same'.displayName_eq]
      exact .after _ fun _ => .pure (.both (.cons ⟨rfl, same'⟩ matched'))

theorem Matched.ensureAll (k : Collaborators) (matched : Matched c.entries c'.entries) :
    (c.ensureAll k).Alike (Program.Leaves fun c c' => Matched c.entries c'.entries)
      (c'.ensureAll k) := by
  refine (matched.ensureEntries k).bind ?_
  rintro _ _ ⟨matched'⟩
  exact .pure (.both matched')

theorem Matched.destroyAll (matched : Matched c.entries c'.entries) :
    c.destroyAll.Alike (Program.Leaves fun c c' => Matched c.entries c'.entries) c'.destroyAll := by
  refine matched.destroyEntries.bind ?_
  rintro _ _ @⟨failed, _, _, matched'⟩
  cases failed <;> exact .pure (.both matched')

theorem Matched.register (matched : Matched c.entries c'.entries) (d : Declaration) :
    (c.call k (.register d)).Alike Replies (c'.call k (.register d)) := by
  rw [call, call, Catalogue.register, Catalogue.register]
  cases (Managed.unbound d.definition (some d.component)).indexName with
  | error error => exact .pure (.both (.same _) matched)
  | ok name =>
    have found : Option.Rel _ (c.get? name) (c'.get? name) := matched.lookup name
    dsimp only
    generalize c.get? name = known at found ⊢
    generalize c'.get? name = known' at found ⊢
    cases found with
    | none => exact .pure (.both (.same _) (matched.concat _))
    | @some x y same =>
      simp only [Definition.agrees_eq same.agree]
      split
      · exact .pure (.both (.registered same) matched)
      · rw [bind_assoc, bind_assoc]
        exact .after _ fun _ => .pure (.both (.registered same) matched)

theorem Matched.call (matched : Matched c.entries c'.entries) (k : Collaborators) (call : Call) :
    (c.call k call).Alike Replies (c'.call k call) := by
  cases call with
  | register d => exact matched.register d
  | ensureAll =>
    refine (matched.ensureAll k).bind ?_
    rintro _ _ ⟨matched'⟩
    exact .pure (.both (.same _) matched')
  | destroyAll =>
    refine matched.destroyAll.bind ?_
    rintro _ _ ⟨matched'⟩
    exact .pure (.both (.same _) matched')
  | get name => exact .pure (.both (.found (matched.lookup name)) matched)
  | names =>
    have names : c'.names = c.names := matched.names_eq
    rw [Catalogue.call, Catalogue.call, names]
    exact .pure (.both (.same _) matched)
  | use name own =>
    have found := matched.lookup name
    change Option.Rel _ (c.get? name) (c'.get? name) at found
    rw [Catalogue.call, Catalogue.call]
    generalize c.get? name = known at found ⊢
    generalize c'.get? name = known' at found ⊢
    cases found with
    | none => exact .pure (.both (.same _) matched)
    | some same =>
      refine (same.call k own).bind ?_
      rintro _ _ ⟨same'⟩
      exact .pure (.both (.same _) (matched.replaceEntry name same'))

/-- What calls come to, one after another. -/
def outcomes : List (Collaborators × Call) → Catalogue → Work (List Outcome)
  | [], _ => pure []
  | (k, call) :: calls, c => do
    let (outcome, c') ← c.call k call
    let later ← outcomes calls c'
    pure (outcome :: later)

theorem Matched.outcomes (matched : Matched c.entries c'.entries)
    (calls : List (Collaborators × Call)) :
    (c.outcomes calls).Alike (List.Forall₂ Outcome.Alike) (c'.outcomes calls) := by
  induction calls generalizing c c' with
  | nil => exact .pure .nil
  | cons first calls ih =>
    refine (matched.call first.1 first.2).bind ?_
    rintro _ _ ⟨alike, matched'⟩
    refine (ih matched').bind fun _ _ rest => ?_
    exact .pure (.cons alike rest)

/-- A declaration that is accepted without a warning may as well have come first. -/
theorem matched_accepted {d : Declaration} {name : String} (well : WellNamed c.entries)
    (ends : (c.register d.component d.definition).Ends [] (.ok (name, x), c')) :
    Matched c'.entries
      (replaceEntry name ⟨d.definition, some d.component, x.binding⟩ c').entries := by
  have well' := (register_ends ends).well well
  have refl (e : Entry) (_ : e ∈ c'.entries) : e.2.Interchangeable e.2 := .refl e.2
  generalize accepted : ([] : Transcript) = t at ends
  cases register_registering ends with
  | @added name named absent =>
    have last : (⟨c.entries ++ [Declaration.entry (name, d)]⟩ : Catalogue).get? name =
        some (.unbound d.definition (some d.component)) := by
      rw [get?] at absent ⊢
      rw [List.lookup_append, absent]
      simp [Declaration.entry]
    exact evolved_replaceEntry well' last refl (.refl _)
  | kept named known =>
    have agree : x.definition.agrees d.definition = true := by
      by_contra conflict
      simp [conflict] at accepted
    refine evolved_replaceEntry well' known refl ⟨agree, ?_, rfl⟩
    have own := well.named _ (mem_of_get? known)
    exact (Managed.indexName_eq_ok.mp own).trans named.symm

end Index.Catalogue

open Catalogue in
/-- Agreement is an equivalence, and nobody can tell which of two definitions that agree an index
has. Under either the same is asked and comes of it, whatever is called and whatever is answered.
So it is with a catalogue that keeps the first of two declarations and does not warn of the other:
with the other in its place it would go on alike. -/
theorem agrees_interchanges :
    (Equivalence fun d e : Definition => d.agrees e = true) ∧
      (∀ x y : Managed, x.definition.agrees y.definition = true → x.indexName = y.indexName →
        x.binding = y.binding → ∀ calls, x.outcomes calls = y.outcomes calls) ∧
      ∀ (turns : List Turn) (c c' : Catalogue) (d : Declaration) (name : String) (x : Managed),
        Lived Catalogue.empty turns c →
        (c.register d.component d.definition).Ends [] (.ok (name, x), c') →
        ∀ calls, (c'.outcomes calls).Alike (List.Forall₂ Outcome.Alike)
          ((replaceEntry name ⟨d.definition, some d.component, x.binding⟩ c').outcomes calls) := by
  refine ⟨Definition.equivalence_agrees, fun x y agree named binding => ?_,
    fun turns c c' d name x lived accepted => ?_⟩
  · have same : x.Interchangeable y := ⟨agree, Managed.indexName?_eq named, binding⟩
    exact same.outcomes_eq
  · have start : Catalogue.empty.Lists [] := rfl
    have lists : c.Lists (declaredIn turns) := lived.lists start
    exact (matched_accepted lists.well accepted).outcomes

namespace Trial

open Catalogue Rehearsal

/-- The definition of the index in other words. -/
def respelled : Definition :=
  { orders with name := " orders", regionPath := some "/orders\t", fields := [wholeValueField] }

/-- The index is declared and bound. -/
def listing : List (Collaborators × Catalogue.Call) :=
  [.register ⟨"shop", orders⟩, .ensureAll].map (collaborators, ·)

def listed : Catalogue := endIn setting.surroundings listing Catalogue.empty (stage "orders")

theorem respelled_interchanges :
    orders ≠ respelled ∧ orders.agrees respelled = true ∧
      (∀ calls, (Managed.unbound orders (some "shop")).outcomes calls =
        (Managed.unbound respelled (some "mall")).outcomes calls) ∧
      ∃ x, x.bound = some ⟨"orders", "/orders", .names ["id"]⟩ ∧
        (listed.register "mall" respelled).Ends [] (.ok ("orders", x), listed) ∧
        ∀ calls, (listed.outcomes calls).Alike (List.Forall₂ Outcome.Alike)
          ((replaceEntry "orders" ⟨respelled, some "mall", x.binding⟩ listed).outcomes calls) := by
  obtain ⟨-, interchanges, accepts⟩ := agrees_interchanges
  have accepted : (listed.register "mall" respelled).Ends [] (.ok ("orders", _), listed) :=
    .done _
  exact ⟨by decide, by decide, interchanges _ _ (by decide) rfl rfl, _, by decide, accepted,
    accepts _ _ _ ⟨"mall", respelled⟩ _ _ (lived_turnsIn ..) accepted⟩

end Trial
end GatedStartup
