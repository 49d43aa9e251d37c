import GatedStartup.Proofs.History

/-! Many activations over one slot. Each remembers what it put there, and others may write to the
slot too, so that memory and slot can disagree. Calls come one after another in any order. -/
namespace GatedStartup

/-- The identity of the manager that is put forward, if one is. -/
def Exchange.offers : Event → Option ManagerId
  | ⟨.register _ manager, _⟩ => some manager.id
  | _ => none

/-- What an activation puts into its slot, seen together with what the slot holds. -/
inductive Tended (a : Activation) : Option Manager → Transcript → Option Manager → Activation → Prop
  where
  | untouched : Tended a held [] held a
  | taken {realms : List Realm} :
      Tended a (some other) [⟨.register a.slot (a.next realms), false⟩] (some other) a.built
  | refused {realms : List Realm} :
      Tended a none
        [⟨.register a.slot (a.next realms), true⟩, ⟨.enforce a.switch, false⟩,
          ⟨.warn .enforcementRefused, ()⟩, ⟨.withdraw a.slot, some (a.next realms)⟩]
        none a.built
  | enforced {realms : List Realm} :
      Tended a none
        [⟨.register a.slot (a.next realms), true⟩, ⟨.enforce a.switch, true⟩]
        (some (a.next realms)) { a.built with active := some (a.next realms) }
  | foreign {held : Option Manager} : a.active = some own → held.map (·.id) ≠ some own.id →
      Tended a held [⟨.registered a.slot, held⟩, ⟨.warn .activationUndone, ()⟩] held
        { a with active := none }
  | withdrawn : a.active = some own → own.id = found.id →
      Tended a (some found)
        [⟨.registered a.slot, some found⟩, ⟨.withdraw a.slot, some found⟩,
          ⟨.warn .activationUndone, ()⟩]
        none { a with active := none }

section

variable {a a' : Activation} {realms : List Realm} {t : Transcript} {first last : Option Manager}

theorem Activated.tended {result : Except ActivationError (Option Manager)}
    (activated : Activated a realms t result a') (trace : SlotTrace a.slot first t last) :
    Tended a first t last a' := by
  cases activated with
  | again | needless =>
    obtain rfl := by simpa using trace
    exact .untouched
  | taken inactive configured =>
    cases first with
    | none => simp at trace
    | some other =>
      obtain rfl := by simpa using trace
      exact .taken
  | refused inactive configured =>
    cases first with
    | none =>
      obtain ⟨rfl, rfl⟩ := by simpa using trace
      exact .refused
    | some other => simp at trace
  | enforced inactive configured =>
    cases first with
    | none =>
      obtain rfl := by simpa using trace
      exact .enforced
    | some other => simp at trace

theorem Deactivated.tended (deactivated : Deactivated a t a')
    (trace : SlotTrace a.slot first t last) : Tended a first t last a' := by
  cases deactivated with
  | nothing =>
    obtain rfl := by simpa using trace
    exact .untouched
  | foreign active differs =>
    obtain ⟨rfl, rfl⟩ := by simpa using trace
    exact .foreign active differs
  | withdrawn active same =>
    obtain ⟨rfl, rfl, rfl⟩ := by simpa using trace
    obtain ⟨found, rfl, known⟩ := Option.map_eq_some_iff.mp same
    exact .withdrawn active known.symm

namespace Tended

theorem slot_eq (tended : Tended a first t last a') : a'.slot = a.slot := by
  cases tended <;> rfl

theorem number_eq (tended : Tended a first t last a') : a'.number = a.number := by
  cases tended <;> rfl

theorem remembers (tended : Tended a first t last a') {manager : Manager}
    (active : a'.active = some manager) :
    a.active = some manager ∨ ⟨.register a.slot manager, true⟩ ∈ t := by
  cases tended with
  | untouched | taken | refused => exact .inl active
  | enforced =>
    obtain rfl := by simpa using active
    exact .inr (.head _)
  | foreign | withdrawn => contradiction

/-- What is put forward is the next manager of the activation, which is then built. -/
theorem offers (tended : Tended a first t last a') :
    (t.filterMap Exchange.offers = [] ∧ a'.serial = a.serial) ∨
      (t.filterMap Exchange.offers = [⟨a.number, a.serial⟩] ∧ a'.serial = a.serial + 1) := by
  cases tended with
  | untouched | foreign | withdrawn => exact .inl ⟨rfl, rfl⟩
  | taken | refused | enforced => exact .inr ⟨rfl, rfl⟩

theorem serial_le (tended : Tended a first t last a') : a.serial ≤ a'.serial := by
  rcases tended.offers with ⟨-, same⟩ | ⟨-, next⟩ <;> omega

theorem built (tended : Tended a first t last a') {e : Event} {id : ManagerId} (member : e ∈ t)
    (offers : e.offers = some id) : id = ⟨a.number, a.serial⟩ ∧ id.serial < a'.serial := by
  have inside : id ∈ t.filterMap Exchange.offers := List.mem_filterMap.mpr ⟨e, member, offers⟩
  rcases tended.offers with ⟨none, -⟩ | ⟨one, next⟩
  · simp [none] at inside
  · obtain rfl := by simpa [one] using inside
    exact ⟨rfl, by simp [next]⟩

/-- A manager that is taken out is the remembered one, or has just been put there. -/
theorem takesOwn (tended : Tended a first t last a') {front rest : Transcript} {manager : Manager}
    (same : t = front ++ ⟨.withdraw a.slot, some manager⟩ :: rest) :
    (∃ own, a.active = some own ∧ own.id = manager.id) ∨
      ⟨.register a.slot manager, true⟩ ∈ front := by
  cases tended with
  | untouched | taken | enforced | foreign => simp [List.cons_eq_append_iff] at same
  | refused =>
    obtain ⟨rfl, rfl, -⟩ := by simpa [List.cons_eq_append_iff] using same
    exact .inr (.head _)
  | withdrawn active known =>
    obtain ⟨-, rfl, -⟩ := by simpa [List.cons_eq_append_iff] using same
    exact .inl ⟨_, active, known⟩

theorem keeps (tended : Tended a (some manager) t last a') :
    last = some manager ∨ ∃ own, a.active = some own ∧ own.id = manager.id := by
  cases tended with
  | untouched | taken | foreign => exact .inl rfl
  | withdrawn active known => exact .inr ⟨_, active, known⟩

end Tended
end

/-- Only putting a manager in and taking one out change what the slot holds. -/
theorem SlotTrace.unwritten {slot : Ref .slot} {first last : Option Manager} {e : Event}
    (trace : SlotTrace slot first [e] last)
    (unwritten : ∀ manager, e ≠ ⟨.register slot manager, true⟩ ∧
      e ≠ ⟨.withdraw slot, some manager⟩) : last = first := by
  cases trace with
  | register later =>
    obtain rfl := at_end.mp later
    cases first with
    | none => exact absurd rfl (unwritten _).1
    | some held => rfl
  | registered later | other _ later => exact at_end.mp later
  | withdraw later =>
    obtain rfl := at_end.mp later
    exact (Option.eq_none_iff_forall_ne_some.mpr fun manager same =>
      (unwritten manager).2 (same ▸ rfl)).symm

/-- Activations, the surroundings they share, and all that was asked. Nobody is named where
somebody else asked. -/
structure Sharing (ι W : Type) where
  activations : ι → Activation
  world : W
  past : List (Option ι × Event)

namespace Sharing

variable {ι W : Type} {slot : Ref .slot} {past new : List (Option ι × Event)}

/-- Somebody else's questions have never changed what the slot holds. -/
def Unmeddled (slot : Ref .slot) (past : List (Option ι × Event)) : Prop :=
  ∀ manager, (none, ⟨.register slot manager, true⟩) ∉ past ∧
    (none, ⟨.withdraw slot, some manager⟩) ∉ past

theorem Unmeddled.of_append (unmeddled : Unmeddled slot (past ++ new)) : Unmeddled slot past :=
  fun manager => (unmeddled manager).imp (mt (List.mem_append_left _)) (mt (List.mem_append_left _))

/-- An activation put the manager into the slot. -/
def PutBy (slot : Ref .slot) (past : List (Option ι × Event)) (i : ι) (manager : Manager) : Prop :=
  ∃ put, (some i, ⟨.register slot put, true⟩) ∈ past ∧ put.id = manager.id

/-- What an activation took out of the slot it had put there before. -/
def TakesOwn (slot : Ref .slot) (past : List (Option ι × Event)) : Prop :=
  ∀ front i manager rest, past = front ++ (some i, ⟨.withdraw slot, some manager⟩) :: rest →
    PutBy slot front i manager

/-- The managers that activations have built, in order. Each is put forward once it is built. -/
def builtIds (past : List (Option ι × Event)) : List ManagerId :=
  past.filterMap fun (who, e) => who.bind fun _ => e.offers

theorem mem_builtIds {id : ManagerId} :
    id ∈ builtIds past ↔ ∃ i e, (some i, e) ∈ past ∧ e.offers = some id := by
  simp only [builtIds, List.mem_filterMap, Option.bind_eq_some_iff]
  constructor
  · rintro ⟨⟨_, e⟩, inside, i, rfl, offers⟩
    exact ⟨i, e, inside, offers⟩
  · rintro ⟨i, e, inside, offers⟩
    exact ⟨(some i, e), inside, i, rfl, offers⟩

theorem builtIds_own (i : ι) (t : Transcript) :
    builtIds (past ++ t.map (some i, ·)) = builtIds past ++ t.filterMap Exchange.offers := by
  simp [builtIds, List.filterMap_map]

theorem builtIds_foreign (e : Event) : builtIds (past ++ [(none, e)]) = builtIds past := by
  simp [builtIds]

theorem TakesOwn.append (before : TakesOwn slot past)
    (later : ∀ front i manager rest,
      new = front ++ (some i, ⟨.withdraw slot, some manager⟩) :: rest →
        PutBy slot (past ++ front) i manager) :
    TakesOwn slot (past ++ new) := by
  intro front i manager rest same
  obtain ⟨between, rfl, inside⟩ | ⟨after, inside, -⟩ := Lists.append_eq_append_cons same
  · exact later between i manager rest inside
  · exact before front i manager after inside

/-- The slot holds what the one active activation remembers, and nothing when there is none. -/
structure Mirrored (activations : ι → Activation) (content : Option Manager) : Prop where
  exclusive : ∀ i j, (activations i).isActive → (activations j).isActive → i = j
  content_eq_some : ∀ manager,
    content = some manager ↔ ∃ i, (activations i).active = some manager

namespace Mirrored

variable {activations : ι → Activation} {i : ι}

theorem none_iff : Mirrored activations none ↔ ∀ i, (activations i).active = none := by
  constructor
  · intro mirrored i
    exact Option.eq_none_iff_forall_ne_some.mpr fun manager active => by
      simpa using (mirrored.content_eq_some manager).mpr ⟨i, active⟩
  · intro idle
    exact ⟨fun i j first => by simp [Activation.isActive, idle] at first, by simp [idle]⟩

theorem of_active {manager : Manager} (active : (activations i).active = some manager)
    (idle : ∀ j, j ≠ i → (activations j).active = none) : Mirrored activations (some manager) := by
  have sole {j : ι} (other : (activations j).isActive) : j = i := by
    by_contra different
    simp [Activation.isActive, idle j different] at other
  refine ⟨fun j k first second => (sole first).trans (sole second).symm, fun found => ?_⟩
  constructor
  · rintro ⟨⟩
    exact ⟨i, active⟩
  · rintro ⟨j, other⟩
    obtain rfl := sole (Option.isSome_of_eq_some other)
    exact active.symm.trans other

theorem of_active_eq {activations' : ι → Activation} {content : Option Manager}
    (mirrored : Mirrored activations content)
    (same : ∀ j, (activations' j).active = (activations j).active) :
    Mirrored activations' content := by
  refine ⟨fun i j => ?_, fun manager => ?_⟩
  · simpa only [Activation.isActive, same] using mirrored.exclusive i j
  · simpa only [same] using mirrored.content_eq_some manager

theorem tended [DecidableEq ι] {first last : Option Manager} {t : Transcript} {a' : Activation}
    (before : Mirrored activations first) (tended : Tended (activations i) first t last a') :
    Mirrored (Function.update activations i a') last := by
  cases tended with
  | untouched => simpa using before
  | taken | refused =>
    refine before.of_active_eq fun j => ?_
    rw [Function.update_apply]
    split
    · next same => rw [same, Activation.built_active]
    · rfl
  | enforced =>
    refine of_active (i := i) (by simp) fun j other => ?_
    rw [Function.update_of_ne other]
    exact none_iff.mp before j
  | foreign active differs =>
    obtain rfl := (before.content_eq_some _).mpr ⟨i, active⟩
    simp at differs
  | withdrawn active known =>
    refine none_iff.mpr fun j => ?_
    by_cases same : j = i
    · simp [same]
    · rw [Function.update_of_ne same]
      exact Option.not_isSome_iff_eq_none.mp fun other =>
        same (before.exclusive j i other (Option.isSome_of_eq_some active))

end Mirrored

/-- What every turn preserves. -/
structure Steady (slot : Ref .slot) (held : W → Option Manager) (s : Sharing ι W) : Prop where
  sameSlot : ∀ i, (s.activations i).slot = slot
  distinct : Function.Injective fun i => (s.activations i).number
  remembered : ∀ i manager, (s.activations i).active = some manager →
    (some i, ⟨.register slot manager, true⟩) ∈ s.past
  built : ∀ i e id, (some i, e) ∈ s.past → e.offers = some id →
    id.builder = (s.activations i).number ∧ id.serial < (s.activations i).serial
  fresh : (builtIds s.past).Nodup
  takesOwn : TakesOwn slot s.past
  mirrored : Unmeddled slot s.past → Mirrored s.activations (held s.world)

section

variable {held : W → Option Manager} {s s' : Sharing ι W}

/-- The manager that an activation builds next has not been built before. -/
theorem Steady.unbuilt (steady : Steady slot held s) (i : ι) :
    (⟨(s.activations i).number, (s.activations i).serial⟩ : ManagerId) ∉ builtIds s.past := by
  intro member
  obtain ⟨j, e, asked, offers⟩ := mem_builtIds.mp member
  obtain ⟨builder, earlier⟩ := steady.built j e _ asked offers
  obtain rfl := steady.distinct builder
  exact absurd earlier (Nat.lt_irrefl _)

section

variable {i : ι} {t : Transcript} {a' : Activation} {first last : Option Manager}

theorem Steady.remembered_own [DecidableEq ι] (steady : Steady slot held s)
    (tended : Tended (s.activations i) first t last a') {j : ι} {manager : Manager}
    (active : (Function.update s.activations i a' j).active = some manager) :
    (some j, ⟨.register slot manager, true⟩) ∈ s.past ++ t.map (some i, ·) := by
  obtain rfl := steady.sameSlot i
  rw [List.mem_append]
  rw [Function.update_apply] at active
  split at active
  · next same =>
    subst same
    rcases tended.remembers active with before | now
    · exact .inl (steady.remembered j manager before)
    · exact .inr (List.mem_map_of_mem now)
  · exact .inl (steady.remembered j manager active)

theorem Steady.takesOwn_own (steady : Steady slot held s)
    (tended : Tended (s.activations i) first t last a') :
    TakesOwn slot (s.past ++ t.map (some i, ·)) := by
  obtain rfl := steady.sameSlot i
  refine steady.takesOwn.append fun front j manager rest same => ?_
  obtain ⟨early, late, rfl, rfl, later⟩ := List.map_eq_append_iff.mp same
  obtain ⟨e, late, rfl, same, rfl⟩ := List.map_eq_cons_iff.mp later
  obtain ⟨rfl, rfl⟩ := by simpa using same
  rcases tended.takesOwn rfl with ⟨own, active, same⟩ | now
  · exact ⟨own, List.mem_append_left _ (steady.remembered i own active), same⟩
  · exact ⟨manager, List.mem_append_right _ (List.mem_map_of_mem now), rfl⟩

theorem Steady.fresh_own (steady : Steady slot held s)
    (tended : Tended (s.activations i) first t last a') :
    (builtIds (s.past ++ t.map (some i, ·))).Nodup := by
  rw [builtIds_own]
  rcases tended.offers with ⟨none, -⟩ | ⟨one, -⟩
  · simpa [none] using steady.fresh
  · rw [one, List.nodup_append]
    refine ⟨steady.fresh, List.nodup_singleton _, fun id inside next isNext same => ?_⟩
    obtain rfl := List.mem_singleton.mp isNext
    exact steady.unbuilt i (same ▸ inside)

theorem Steady.built_own [DecidableEq ι] (steady : Steady slot held s)
    (tended : Tended (s.activations i) first t last a') {j : ι} {e : Event} {id : ManagerId}
    (member : (some j, e) ∈ s.past ++ t.map (some i, ·)) (offers : e.offers = some id) :
    id.builder = (Function.update s.activations i a' j).number ∧
      id.serial < (Function.update s.activations i a' j).serial := by
  rw [List.mem_append, List.mem_map] at member
  rcases member with before | ⟨e, inside, same⟩
  · obtain ⟨builder, earlier⟩ := steady.built j e id before offers
    by_cases same : j = i
    · subst same
      rw [Function.update_self, tended.number_eq]
      exact ⟨builder, Nat.lt_of_lt_of_le earlier tended.serial_le⟩
    · rw [Function.update_of_ne same]
      exact ⟨builder, earlier⟩
  · obtain ⟨rfl, rfl⟩ := by simpa using same
    obtain ⟨rfl, earlier⟩ := tended.built inside offers
    rw [Function.update_self]
    exact ⟨tended.number_eq.symm, earlier⟩

end

theorem Steady.own [DecidableEq ι] {i : ι} {t : Transcript} {a' : Activation}
    (steady : Steady slot held s)
    (tended : Tended (s.activations i) (held s.world) t (held s'.world) a')
    (left : s'.activations = Function.update s.activations i a')
    (asked : s'.past = s.past ++ t.map (some i, ·)) : Steady slot held s' := by
  refine ⟨fun j => ?_, ?_, fun j manager active => ?_, fun j e id member offers => ?_, ?_, ?_,
    fun unmeddled => ?_⟩
  · rw [left, Function.update_apply]
    split
    · exact tended.slot_eq.trans (steady.sameSlot i)
    · exact steady.sameSlot j
  · have number_eq (j : ι) : (s'.activations j).number = (s.activations j).number := by
      rw [left, Function.update_apply]
      split
      · next same => rw [tended.number_eq, same]
      · rfl
    simpa only [number_eq] using steady.distinct
  · rw [asked]
    exact steady.remembered_own tended (left ▸ active)
  · rw [left]
    exact steady.built_own tended (asked ▸ member) offers
  · exact asked ▸ steady.fresh_own tended
  · exact asked ▸ steady.takesOwn_own tended
  · rw [asked] at unmeddled
    exact left ▸ (steady.mirrored unmeddled.of_append).tended tended

theorem Steady.foreign {e : Event} (steady : Steady slot held s)
    (trace : SlotTrace slot (held s.world) [e] (held s'.world))
    (left : s'.activations = s.activations) (asked : s'.past = s.past ++ [(none, e)]) :
    Steady slot held s' := by
  refine ⟨left ▸ steady.sameSlot, left ▸ steady.distinct, fun i manager active => ?_,
    fun i e' id member offers => ?_, ?_, ?_, fun unmeddled => ?_⟩
  · exact asked ▸ List.mem_append_left _ (steady.remembered i manager (left ▸ active))
  · exact left ▸ steady.built i e' id (by simpa [asked] using member) offers
  · rw [asked, builtIds_foreign]
    exact steady.fresh
  · exact asked ▸ steady.takesOwn.append fun front i manager rest same => by
      simp [List.cons_eq_append_iff] at same
  · rw [asked] at unmeddled
    have same : held s'.world = held s.world := trace.unwritten fun manager =>
      (unmeddled manager).imp (fun absent same => absent (by simp [same]))
        (fun absent same => absent (by simp [same]))
    rw [left, same]
    exact steady.mirrored unmeddled.of_append

theorem Steady.sole (steady : Steady slot held s) {i j : ι} {manager : Manager}
    (first : PutBy slot s.past i manager) (second : PutBy slot s.past j manager) : i = j := by
  obtain ⟨put, asked, known⟩ := first
  obtain ⟨put', asked', known'⟩ := second
  have same : put.id.builder = put'.id.builder := by rw [known, known']
  rw [(steady.built i _ _ asked rfl).1, (steady.built j _ _ asked' rfl).1] at same
  exact steady.distinct same

end

variable [DecidableEq ι]

inductive Turn (ι : Type) where
  | activate (i : ι) (realms : List Realm)
  | deactivate (i : ι)
  /-- Somebody else puts a manager into the slot. -/
  | register (manager : Manager)
  /-- Somebody else empties the slot. -/
  | clear

/-- The activation whose turn it is. -/
def Turn.caller : Turn ι → Option ι
  | .activate i _ | .deactivate i => some i
  | .register _ | .clear => none

/-- After `who` has run a program and left the activations as given. -/
def proceed (s : Sharing ι W) (h : Surroundings W) (who : Option ι) (p : Work α)
    (left : α → ι → Activation) : Sharing ι W where
  activations := left (p.run h s.world).1
  world := (p.run h s.world).2
  past := s.past ++ (p.events h s.world).map (who, ·)

def after (h : Surroundings W) (slot : Ref .slot) (s : Sharing ι W) : Turn ι → Sharing ι W
  | .activate i realms =>
    s.proceed h (some i) ((s.activations i).activate realms)
      fun (_, a) => Function.update s.activations i a
  | .deactivate i =>
    s.proceed h (some i) (s.activations i).deactivate
      fun (_, a) => Function.update s.activations i a
  | .register manager => s.proceed h none (ask (.register slot manager)) fun _ => s.activations
  | .clear => s.proceed h none (ask (.withdraw slot)) fun _ => s.activations

/-- All that can come of activations that share a slot, which is empty at first. -/
inductive Reached (h : Surroundings W) (slot : Ref .slot) (held : W → Option Manager) :
    Sharing ι W → Prop where
  | start (activations : ι → Activation) (w : W) : (∀ i, (activations i).active = none) →
      (∀ i, (activations i).slot = slot) →
      Function.Injective (fun i => (activations i).number) → held w = none →
      Reached h slot held ⟨activations, w, []⟩
  | turn (turn : Turn ι) : Reached h slot held s → Reached h slot held (s.after h slot turn)

theorem Reached.turns {h : Surroundings W} {held : W → Option Manager} {s : Sharing ι W}
    (turns : List (Turn ι)) (reached : Reached h slot held s) :
    Reached h slot held (turns.foldl (after h slot) s) := by
  induction turns generalizing s with
  | nil => exact reached
  | cons turn turns ih => exact ih (.turn turn reached)

/-- All that a turn can do. -/
inductive Turned (slot : Ref .slot) (held : W → Option Manager) (s s' : Sharing ι W) :
    Option ι → Prop where
  | own (i : ι) : Tended (s.activations i) (held s.world) t (held s'.world) a' →
      s'.activations = Function.update s.activations i a' →
      s'.past = s.past ++ t.map (some i, ·) → Turned slot held s s' (some i)
  | foreign : SlotTrace slot (held s.world) [e] (held s'.world) →
      s'.activations = s.activations → s'.past = s.past ++ [(none, e)] → Turned slot held s s' none

section

variable {h : Surroundings W} {held : W → Option Manager} {s s' : Sharing ι W}

theorem turned (keeps : KeepsSlot h slot held) (sameSlot : ∀ i, (s.activations i).slot = slot)
    (turn : Turn ι) : Turned slot held s (s.after h slot turn) turn.caller := by
  cases turn with
  | activate i realms =>
    have activated := Activation.activate_ends
      (Program.ends_events h ((s.activations i).activate realms) s.world)
    refine .own i (activated.tended ?_) rfl rfl
    rw [sameSlot i]
    exact keeps.trace (sameSlot i ▸ activated.onlySlot)
  | deactivate i =>
    have deactivated := Activation.deactivate_ends
      (Program.ends_events h (s.activations i).deactivate s.world)
    refine .own i (deactivated.tended ?_) rfl rfl
    rw [sameSlot i]
    exact keeps.trace (sameSlot i ▸ deactivated.onlySlot)
  | register manager =>
    exact .foreign (keeps.exchange (by rintro _ ⟨⟩; rfl) s.world .nil) rfl rfl
  | clear => exact .foreign (keeps.exchange (by rintro _ ⟨⟩; rfl) s.world .nil) rfl rfl

theorem Steady.turned {who : Option ι} (steady : Steady slot held s)
    (turned : Turned slot held s s' who) : Steady slot held s' := by
  cases turned with
  | own i tended left asked => exact steady.own tended left asked
  | foreign trace left asked => exact steady.foreign trace left asked

theorem Reached.steady (keeps : KeepsSlot h slot held) (reached : Reached h slot held s) :
    Steady slot held s := by
  induction reached with
  | start activations w idle sameSlot distinct empty =>
    refine ⟨sameSlot, distinct, by simp [idle], by simp, by simp [builtIds], by simp [TakesOwn],
      fun _ => ?_⟩
    rw [empty]
    exact Mirrored.none_iff.mpr idle
  | turn turn _ before => exact before.turned (turned keeps before.sameSlot turn)

/-- What holds of activations that share a slot, and of the next turn of any of them. -/
structure Orderly (h : Surroundings W) (slot : Ref .slot) (held : W → Option Manager)
    (s : Sharing ι W) : Prop where
  mirrored : Unmeddled slot s.past → Mirrored s.activations (held s.world)
  /-- A call that fails leaves the slot and all activations as they were. Only the manager it has
  built is counted, so that the next one is another. -/
  failed : ∀ i realms error,
    (((s.activations i).activate realms).run h s.world).1.1 = .error error →
      held (s.after h slot (.activate i realms)).world = held s.world ∧
        (s.after h slot (.activate i realms)).activations =
          Function.update s.activations i (s.activations i).built
  /-- No two managers that activations build are the same. -/
  fresh : (builtIds s.past).Nodup
  /-- A manager leaves the slot only in a turn of the activation that put it there. -/
  keeps : ∀ turn i manager, turn.caller = some i → held s.world = some manager →
    held (s.after h slot turn).world = some manager ∨ PutBy slot s.past i manager
  takesOwn : TakesOwn slot s.past
  sole : ∀ i j manager, PutBy slot s.past i manager → PutBy slot s.past j manager → i = j

theorem Steady.keeps (steady : Steady slot held s) {i : ι} {manager : Manager}
    (turned : Turned slot held s s' (some i)) (full : held s.world = some manager) :
    held s'.world = some manager ∨ PutBy slot s.past i manager := by
  cases turned with
  | own i tended =>
    rw [full] at tended
    exact tended.keeps.imp_right fun ⟨own, active, same⟩ =>
      ⟨own, steady.remembered i own active, same⟩

theorem Steady.failed (keeps : KeepsSlot h slot held) (steady : Steady slot held s) {i : ι}
    {realms : List Realm} {error : ActivationError}
    (failed : (((s.activations i).activate realms).run h s.world).1.1 = .error error) :
    held (s.after h slot (.activate i realms)).world = held s.world ∧
      (s.after h slot (.activate i realms)).activations =
        Function.update s.activations i (s.activations i).built := by
  have ends := Program.ends_events h ((s.activations i).activate realms) s.world
  have activated := Activation.activate_ends ends
  obtain rfl := steady.sameSlot i
  rw [failed] at activated
  obtain ⟨content, left, -⟩ := activated.failed (keeps.trace activated.onlySlot)
  exact ⟨content, congrArg (Function.update s.activations i) left⟩

/-- Activations that share a slot keep out of each other's way. As long as nobody else writes to
it, the slot holds what the one active activation remembers. Whoever writes, no activation takes
out what it did not put in. -/
theorem Reached.orderly (keeps : KeepsSlot h slot held) (reached : Reached h slot held s) :
    Orderly h slot held s where
  mirrored := (reached.steady keeps).mirrored
  failed _ _ _ := (reached.steady keeps).failed keeps
  fresh := (reached.steady keeps).fresh
  keeps turn _ _ called := by
    have turned := turned keeps (reached.steady keeps).sameSlot turn
    rw [called] at turned
    exact (reached.steady keeps).keeps turned
  takesOwn := (reached.steady keeps).takesOwn
  sole _ _ _ := (reached.steady keeps).sole

end

end Sharing

namespace Trial

open Rehearsal Sharing

def rival (i : Fin 2) : Activation := .inactive i theSlot theSwitch

/-- The manager of the first activation is taken away by somebody else, and the second activation
puts its own there before the first takes its manager back. -/
def rivalry : Sharing (Fin 2) Stage :=
  [.activate 0 [staff], .clear, .activate 1 [guests], .deactivate 0].foldl
    (Sharing.after setting.surroundings theSlot)
    ⟨rival, stage "orders", []⟩

theorem rivalry_orderly : Orderly setting.surroundings theSlot Stage.slot rivalry :=
  Reached.orderly (keepsSlot setting theSlot)
    (.turns _
      (.start rival (stage "orders") (fun _ => rfl) (fun _ => rfl) (fun _ _ => Fin.ext) rfl))

example : rivalry.world.slot = (rivalry.activations 1).active ∧
    rivalry.world.slot = some ⟨⟨1, 0⟩, [guests]⟩ := by
  decide

end Trial
end GatedStartup
