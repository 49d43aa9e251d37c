import GatedStartup.Proofs.Repetition
import GatedStartup.Proofs.StagePass
import GatedStartup.Proofs.StageTally

/-! Runs made one after the other on the stage of a dry run, and a shutdown. All runs come to the
same. Each that fails destroys what is to go with the process and keeps the rest, and no index is
refused to be destroyed. -/
namespace GatedStartup

open Engine Index Lookup Declaration

theorem EnsuredEach.unrefused {entries entries' : List Entry} {t : Transcript}
    {result : Except Failure (List Handle)} (ensured : EnsuredEach entries t result entries') :
    Unrefused t := by
  intro service handle error member
  obtain ⟨_, _, _, sought⟩ := ensured.seeks _ member
  exact sought

theorem DestroyedEach.unrefused {entries entries' : List Entry} {t : Transcript}
    {failed : Option Failure} (destroyed : DestroyedEach entries t failed entries')
    (none : failed = none) : Unrefused t := by
  induction destroyed with
  | nil => exact .nil
  | cons _ first ih =>
    refine (ih none).append ?_
    cases first with
    | spared => exact .nil
    | gone => simp [Unrefused]
  | failed => simp at none

/-- A rollback that leaves nothing to destroy has not been refused anything. -/
theorem RolledBack.unrefused {s s' : Startup} {t : Transcript} (back : RolledBack s t s')
    (gone : ∀ e ∈ s'.catalogue.entries,
      e.2.definition.destroyOnShutdown = true → e.2.binding = none) : Unrefused t := by
  cases back with
  | @done destroys failed _ _ _ _ destroyed deactivated stopping =>
    have quiet : Spares .search (incomplete failed) := incomplete_spares (by decide)
    have withdrawal : Spares .search _ := deactivated.spares (by decide) (by decide)
    have stops : Spares .search _ := stopping.spares (by decide)
    exact (destroyed.unrefused (destroyed.none_iff.mpr gone)).append
      (quiet.unrefused.append (withdrawal.unrefused.append stops.unrefused))

theorem Ran.unrefused {s s' : Startup} {t : Transcript} {result : Except Failure Startup.Report}
    (ran : Ran s t result s')
    (gone : ∀ failure, result = .error failure → ∀ e ∈ s'.catalogue.entries,
      e.2.definition.destroyOnShutdown = true → e.2.binding = none) : Unrefused t := by
  have probing {present : Bool} :
      Unrefused [⟨.probe s.gate.probe s.gate.capability, present⟩] := by simp [Unrefused]
  cases ran with
  | unsecured secured stopping =>
    have stops : Spares .search _ := stopping.spares (by decide)
    exact probing.append (secured.spares_search.unrefused.append stops.unrefused)
  | succeeded secured each =>
    exact probing.append (secured.spares_search.unrefused.append each.unrefused)
  | rolledBack secured each back =>
    exact probing.append (secured.spares_search.unrefused.append
      (each.unrefused.append (back.unrefused (gone _ rfl))))

theorem Startup.shutdown_unrefused {s s' : Startup} {t : Transcript}
    (ends : s.shutdown.Ends t (.ok (), s')) : Unrefused t := by
  generalize same : Call.Outcome.ended (.ok ()) = outcome
  have called := shutdown_ends ends
  rw [same] at called
  cases called with
  | again => exact .nil
  | @ended _ _ _ _ failed _ destroyed logged stopping =>
    cases failed with
    | some failure => simp at same
    | none =>
      have warns : Spares .search _ := spares_of_logged logged (by decide)
      have stops : Spares .search _ := stopping.spares (by decide)
      exact (destroyed.unrefused rfl).append (warns.unrefused.append stops.unrefused)

namespace Startup

/-- So many runs, with what each returns. -/
def runs (k : Collaborators) : Nat → Startup → Work (List (Except Failure Report) × Startup)
  | 0, s => pure ([], s)
  | n + 1, s => do
    let (result, s) ← s.run k
    let (results, s) ← runs k n s
    pure (result :: results, s)

/-- So many runs, then a shutdown. -/
def rehearse (k : Collaborators) (n : Nat) (s : Startup) :
    Work ((List (Except Failure Report) × Except Failure Unit) × Startup) := do
  let (results, s) ← s.runs k n
  let (ended, s) ← s.shutdown
  pure ((results, ended), s)

end Startup

namespace Rehearsal

variable {α β : Type} {s : Setting} {w w' : Stage}

/-- On the stage the program comes to the value and leaves the stage so, and is not refused to
destroy an index. -/
structure Clean (s : Setting) (p : Work α) (w : Stage) (a : α) (w' : Stage) : Prop where
  run : p.run s.surroundings w = (a, w')
  unrefused : Unrefused (p.events s.surroundings w)

theorem Clean.pure (a : α) : Clean s (pure a : Work α) w a w := ⟨rfl, .nil⟩

theorem Clean.bind {p : Work α} {f : α → Work β} {a : α} {b : β} {w'' : Stage}
    (first : Clean s p w a w') (later : Clean s (f a) w' b w'') : Clean s (p >>= f) w b w'' where
  run := by rw [Program.run_bind, first.run, later.run]
  unrefused := by
    rw [Program.events_bind, first.run]
    exact first.unrefused.append later.unrefused

section

variable {regions : Regions} {declared : List (String × Declaration)} {keeps : Declaration → Bool}
  {present : Bool} {st : Startup} {c : Catalogue}

/-- The entry is that of the declared index. If it is bound it is kept, and bound to what is found
of it. -/
structure Follows (regions : Regions) (keeps : Declaration → Bool) (e : String × Declaration)
    (x : Entry) : Prop where
  name : x.1 = e.1
  definition : x.2.definition = e.2.definition
  component : x.2.component = some e.2.component
  found : ∀ handle, x.2.bound = some handle → ensured regions e.1 e.2.definition = .ok handle
  kept : ∀ handle, x.2.bound = some handle → keeps e.2 = true

theorem Follows.named {e : String × Declaration} {x : Entry} (follows : Follows regions keeps e x)
    {handle : Handle} (bound : x.2.bound = some handle) : handle.name = x.1 :=
  (name_ensured (follows.found handle bound)).trans follows.name.symm

theorem of_mem_stocked {x : Entry} (member : x ∈ stocked regions keeps declared) :
    ∃ e ∈ declared, Follows regions keeps e x := by
  induction declared with
  | nil => contradiction
  | cons e rest ih =>
    cases found : ensured regions e.1 e.2.definition with
    | error failure =>
      rw [stocked_error found] at member
      obtain ⟨e', inside, rfl⟩ := List.mem_map.mp member
      exact ⟨e', inside, rfl, rfl, rfl, by simp [Managed.bound], by simp [Managed.bound]⟩
    | ok handle =>
      rw [stocked_ok found] at member
      rcases List.mem_cons.mp member with rfl | later
      · refine ⟨e, List.mem_cons_self, rfl, rfl, rfl, fun handle' bound => ?_, fun handle' bound => ?_⟩
        · rw [placed_bound] at bound
          obtain rfl := Option.some.inj (Option.ite_none_right_eq_some.mp bound).2
          exact found
        · rw [placed_bound] at bound
          exact (Option.ite_none_right_eq_some.mp bound).1
      · obtain ⟨e', inside, follows⟩ := ih later
        exact ⟨e', List.mem_cons_of_mem _ inside, follows⟩

theorem wellNamed_stocked (staged : Staged regions declared) :
    WellNamed (stocked regions keeps declared) where
  named x member := by
    obtain ⟨e, inside, follows⟩ := of_mem_stocked member
    have resolved := staged.resolved e inside
    rw [Declaration.name?] at resolved
    simp [Managed.indexName, follows.definition, follows.component, resolved, follows.name]
  distinct := names_stocked ▸ staged.distinct

/-- What is to go with the process is not among what is kept. -/
def Sparing (keeps : Declaration → Bool) : Prop := ∀ d, keeps d = true → lasting d = true

theorem unbound_of_sparing (sparing : Sparing keeps) {x : Entry}
    (member : x ∈ stocked regions keeps declared)
    (flagged : x.2.definition.destroyOnShutdown = true) : x.2.binding = none := by
  obtain ⟨e, -, follows⟩ := of_mem_stocked member
  cases binding : x.2.binding with
  | none => rfl
  | some b =>
    have kept := sparing e.2 (follows.kept b.handle (by simp [Managed.bound, binding]))
    simp [lasting, ← follows.definition, flagged] at kept

theorem run_clean (staged : Staged regions declared)
    (entries : st.catalogue.entries = stocked regions keeps declared)
    {result : Except Failure Startup.Report} {st' : Startup}
    (run : (st.run registryOnly).run s.surroundings w = ((result, st'), w'))
    (gone : ∀ failure, result = .error failure → ∀ e ∈ st'.catalogue.entries,
      e.2.definition.destroyOnShutdown = true → e.2.binding = none) :
    Clean s (st.run registryOnly) w (result, st') w' := by
  have ends := (st.run registryOnly).ends_events s.surroundings w
  rw [run] at ends
  exact ⟨run, (Startup.run_ends (entries ▸ wellNamed_stocked staged) ends).unrefused gone⟩

theorem Ready.clean {keeps' : Declaration → Bool} (ready : Ready s present regions declared keeps st w)
    (staged : Staged regions declared) {failure : Failure} {st' : Startup}
    (run : (st.run registryOnly).run s.surroundings w = ((.error failure, st'), w'))
    (after : Ready s present regions declared keeps' st' w') (sparing : Sparing keeps') :
    Clean s (st.run registryOnly) w (.error failure, st') w' :=
  run_clean staged ready.stock.entries run fun _ _ _ member =>
    unbound_of_sparing sparing (after.stock.entries ▸ member)

/-- Runs that all come to the same. -/
theorem runs_clean {P : Startup → Stage → Prop} {result : Except Failure Startup.Report}
    (step : ∀ st w, P st w → ∃ st' w', Clean s (st.run registryOnly) w (result, st') w' ∧ P st' w')
    (n : Nat) (holds : P st w) :
    ∃ st' w', Clean s (st.runs registryOnly n) w (List.replicate n result, st') w' ∧ P st' w' := by
  induction n generalizing st w with
  | zero => exact ⟨st, w, .pure _, holds⟩
  | succ n ih =>
    obtain ⟨st₁, w₁, first, holds₁⟩ := step st w holds
    obtain ⟨st₂, w₂, later, holds₂⟩ := ih holds₁
    exact ⟨st₂, w₂, first.bind (later.bind (.pure _)), holds₂⟩

/-- Whatever a run that succeeds has left, the next finds it there. -/
theorem settled_clean {report : Startup.Report} (settled : st.Settled report)
    (probed : s.probe.isPresent st.gate.capability = report.gates.integrationPresent) :
    Clean s (st.run registryOnly) w (.ok report, st) w := by
  obtain ⟨run, asked⟩ := settled.run (k := registryOnly) (h := s.surroundings) (w := w) probed
  exact ⟨run, asked ▸ by simp [Unrefused]⟩

/-- What every run comes to, and what is kept of the indexes by the time it is over. -/
inductive Verdict (s : Setting) (present : Bool) (regions : Regions)
    (declared : List (String × Declaration)) :
    Except Failure Startup.Report → (Declaration → Bool) → Prop where
  | locked {a : Accounts} :
      (if present then s.accounts.find? (·.users.isEmpty) else none) = some a →
      Verdict s present regions declared (.error (.activation (locked a))) never
  | failed {failure : Failure} :
      (if present then s.accounts.find? (·.users.isEmpty) else none) = none →
      (declared.mapM fun e => ensured regions e.1 e.2.definition) = .error failure →
      Verdict s present regions declared (.error failure) lasting
  | up {report : Startup.Report} :
      (if present then s.accounts.find? (·.users.isEmpty) else none) = none →
      (declared.mapM fun e => ensured regions e.1 e.2.definition) = .ok report.indexes →
      Verdict s present regions declared (.ok report) always

theorem runs_run (only : CacheOnly s) (staged : Staged regions declared)
    (ready : Ready s present regions declared never st w) (n : Nat) :
    ∃ result keeps st' w', Verdict s present regions declared result keeps ∧
      Clean s (st.runs registryOnly (n + 1)) w (List.replicate (n + 1) result, st') w' ∧
      st'.ended = false ∧ Stocked regions declared keeps st'.catalogue w' := by
  have nothing : Sparing never := fun _ => nofun
  have sparing : Sparing lasting := fun _ => id
  cases first : if present then s.accounts.find? (·.users.isEmpty) else none with
  | some a =>
    obtain ⟨st', w', clean, after⟩ := runs_clean
      (P := fun st w => Ready s present regions declared never st w) (fun st w ready => by
        obtain ⟨st', run, after⟩ := run_locked ready first
        exact ⟨st', w, ready.clean staged run after nothing, after⟩) (n + 1) ready
    exact ⟨_, _, st', w', .locked first, clean, after.open_, after.stock⟩
  | none =>
    cases each : declared.mapM fun e => ensured regions e.1 e.2.definition with
    | error failure =>
      have step {keeps : Declaration → Bool} (st : Startup) (w : Stage)
          (ready : Ready s present regions declared keeps st w) :
          ∃ st' w', Clean s (st.run registryOnly) w (.error failure, st') w' ∧
            Ready s present regions declared lasting st' w' := by
        obtain ⟨st', w', run, after⟩ := run_failed only staged ready first each
        exact ⟨st', w', ready.clean staged run after sparing, after⟩
      obtain ⟨st₁, w₁, clean₁, ready₁⟩ := step st w ready
      obtain ⟨st', w', clean, after⟩ := runs_clean step n ready₁
      exact ⟨_, _, st', w', .failed first each, clean₁.bind (clean.bind (.pure _)), after.open_,
        after.stock⟩
    | ok handles =>
      obtain ⟨st₁, w₁, run, gate, open_, stock⟩ := run_succeeds only staged ready first each
      obtain ⟨report, rfl, present_eq, run⟩ : ∃ report : Startup.Report,
          report.indexes = handles ∧ present = report.gates.integrationPresent ∧
            (st.run registryOnly).run s.surroundings w = ((.ok report, st₁), w₁) :=
        ⟨_, rfl, rfl, run⟩
      have clean₁ := run_clean staged ready.stock.entries run (fun _ => nofun)
      have settled : st₁.Settled report := by
        have ends := (st.run registryOnly).ends_events s.surroundings w
        rw [run] at ends
        exact Startup.run_settles ends
      have probed := gate ▸ ready.probed.trans present_eq
      have again : ∀ st w, st = st₁ ∧ w = w₁ → ∃ st' w',
          Clean s (st.run registryOnly) w (.ok report, st') w' ∧ st' = st₁ ∧ w' = w₁ := by
        rintro st w ⟨rfl, rfl⟩
        exact ⟨st, w, settled_clean settled probed, rfl, rfl⟩
      obtain ⟨st', w', clean, rfl, rfl⟩ := runs_clean again n ⟨rfl, rfl⟩
      exact ⟨_, _, st', w', .up first each, clean₁.bind (clean.bind (.pure _)), open_, stock⟩

theorem shutdown_clean (staged : Staged regions declared) (open_ : st.ended = false)
    (stock : Stocked regions declared keeps st.catalogue w) :
    ∃ st' w', Clean s st.shutdown w (.ok (), st') w' ∧
      Stocked regions declared (fun d => keeps d && lasting d) st'.catalogue w' := by
  obtain ⟨st', w', run, after⟩ := shutdown_run s staged open_ stock
  have ends := st.shutdown.ends_events s.surroundings w
  rw [run] at ends
  exact ⟨st', w', ⟨run, Startup.shutdown_unrefused ends⟩, after⟩

end

end Rehearsal
end GatedStartup
