import GatedStartup.Proofs.StageRun

/-! A startup on the stage of a dry run: starting the realms, activating security, and what a run and
a rollback come to, whatever earlier runs have left. -/
namespace GatedStartup

open Engine Index Lookup Text Declaration

namespace Rehearsal

variable {s : Setting} {w : Stage}

/-- The realms of accounts that have their places from `n` on. -/
def numbered (n : Nat) (accounts : List Accounts) : List Realm :=
  (accounts.zipIdx n).map fun entry => ⟨entry.2, entry.1.name⟩

/-- A realm without users does not start. -/
def locked (accounts : Accounts) : ActivationError :=
  .realmStart accounts.name (AuthError.unavailable accounts.name "no users configured").message

/-- Realms are started in order, up to the first without users. -/
theorem start_run (before rest : List Accounts) {l : Lifecycle} (all : s.accounts = before ++ rest)
    (earlier : ∀ realm ∈ l.started, realm.number < before.length) :
    ∃ l', (l.start (numbered before.length rest)).run s.surroundings w =
      (((rest.find? (·.users.isEmpty)).elim (.ok ()) fun a => .error (locked a), l'), w) := by
  induction rest generalizing before l with
  | nil => exact ⟨l, rfl⟩
  | cons a rest ih =>
    have idle : l.runs ⟨before.length, a.name⟩ = false := by
      simp only [Lifecycle.runs, List.any_eq_false, beq_iff_eq]
      exact fun realm member => Nat.ne_of_lt (earlier realm member)
    have answer : s.startRealm ⟨before.length, a.name⟩ = a.start := by
      simp [Setting.startRealm, all]
    simp only [numbered, List.zipIdx_cons, List.map_cons, Lifecycle.start, idle]
    by_cases users : a.users.isEmpty = true
    · refine ⟨l, ?_⟩
      simp [answer, Accounts.start, users, locked]
    · have later : ∀ realm ∈ l.started ++ [⟨before.length, a.name⟩],
          realm.number < (before ++ [a]).length := by
        intro realm member
        rcases List.mem_append.mp member with old | new
        · exact Nat.lt_of_lt_of_le (earlier realm old) (by simp)
        · obtain rfl := List.mem_singleton.mp new
          simp
      obtain ⟨l', started⟩ := ih (before ++ [a]) (by simpa using all) later
      refine ⟨l', ?_⟩
      simpa [answer, Accounts.start, users, numbered] using started

theorem stopEach_run (realms : List Realm) :
    (Lifecycle.stopEach realms).run s.surroundings w = ((), w) := by
  induction realms with
  | nil => rfl
  | cons realm rest ih => exact ih

/-- With an empty slot activation succeeds, and the slot holds the manager that is remembered. -/
theorem activate_run {a : Activation} (realms : List Realm) (inactive : a.active = none)
    (vacant : w.slot = none) :
    ∃ a' enforced, (a.activate realms).run s.surroundings w =
      ((.ok (Manager.ofRealms? ⟨a.number, a.serial⟩ realms), a'),
        { w with slot := a'.active, enforced := enforced }) := by
  simp only [Activation.activate, inactive]
  cases built : Manager.ofRealms? ⟨a.number, a.serial⟩ realms with
  | none =>
    refine ⟨a, w.enforced, ?_⟩
    simp only [inactive, Program.run_pure]
    rw [← vacant]
  | some manager =>
    refine ⟨{ a.built with active := some manager }, true, ?_⟩
    simp [vacant]

theorem deactivate_run {a : Activation} (backed : w.slot = a.active) :
    ∃ undone warnings, a.deactivate.run s.surroundings w =
      ((undone, { a with active := none }), { w with slot := none, warnings := warnings }) := by
  cases active : a.active with
  | none =>
    have inactive : { a with active := none } = a := by rw [← active]
    have vacant : { w with slot := none } = w := by rw [← backed.trans active]
    refine ⟨false, w.warnings, ?_⟩
    simp only [Activation.deactivate, active, Program.run_pure, inactive, vacant]
  | some manager =>
    refine ⟨true, w.warnings ++ [.activationUndone], ?_⟩
    simp [Activation.deactivate, active, backed]

section

variable {st : Startup} {present : Bool}

theorem stopRealms_run :
    st.stopRealms.run s.surroundings w = ({ st with lifecycle := .idle }, w) := by
  simp [Startup.stopRealms, Lifecycle.stop, stopEach_run]

/-- The first realm without users, if the integration is there at all. -/
theorem startRealms_run (present configured : Bool) (numbers : st.realms = numbered 0 s.accounts)
    (idle : st.lifecycle = .idle) :
    ∃ l, (st.startRealms ⟨present, configured⟩).run s.surroundings w =
      ((((if present then s.accounts.find? (·.users.isEmpty) else none).map locked).elim
          (.ok ()) .error, { st with lifecycle := l }), w) := by
  cases present with
  | false => exact ⟨st.lifecycle, rfl⟩
  | true =>
    obtain ⟨l, started⟩ := start_run (s := s) (w := w) [] s.accounts (l := .idle)
      (by simp) (by simp [Lifecycle.idle])
    simp only [List.length_nil] at started
    refine ⟨l, ?_⟩
    simp only [Startup.startRealms, if_true, numbers, idle, started, Program.run_bind,
      Program.run_pure]
    cases s.accounts.find? (·.users.isEmpty) <;> rfl

theorem secure_run_locked (configured : Bool) {a : Accounts}
    (numbers : st.realms = numbered 0 s.accounts) (idle : st.lifecycle = .idle)
    (first : (if present then s.accounts.find? (·.users.isEmpty) else none) = some a) :
    ∃ l, (st.secure ⟨present, configured⟩).run s.surroundings w =
      ((.error (locked a), { st with lifecycle := l }), w) := by
  obtain ⟨l, started⟩ := startRealms_run (s := s) (w := w) present configured numbers idle
  rw [first] at started
  exact ⟨l, by simp only [Startup.secure, started, Program.run_bind]; rfl⟩

theorem secure_run (configured : Bool) (numbers : st.realms = numbered 0 s.accounts)
    (idle : st.lifecycle = .idle) (inactive : st.activation.active = none) (vacant : w.slot = none)
    (unlocked : (if present then s.accounts.find? (·.users.isEmpty) else none) = none) :
    ∃ l a enforced, (st.secure ⟨present, configured⟩).run s.surroundings w =
      ((.ok (Manager.ofRealms? ⟨st.activation.number, st.activation.serial⟩ st.realms),
          { st with lifecycle := l, activation := a }),
        { w with slot := a.active, enforced := enforced }) := by
  obtain ⟨a, enforced, activated⟩ := activate_run (s := s) st.realms inactive vacant
  obtain ⟨l, started⟩ := startRealms_run (s := s) (w := w) present configured numbers idle
  rw [unlocked] at started
  refine ⟨l, a, enforced, ?_⟩
  simp only [Startup.secure, started, Option.map_none, Option.elim_none, activated,
    Program.run_bind, Program.run_pure]

end

/-- The entries are those of declared indexes, and the store has what they are bound to and nothing
else. -/
structure Stocked (regions : Regions) (declared : List (String × Declaration))
    (keeps : Declaration → Bool) (c : Catalogue) (w : Stage) : Prop where
  there : w.regions = regions
  entries : c.entries = stocked regions keeps declared
  held : EachHeld w.store (stocked regions keeps declared)
  others : ∀ name ∉ declared.map (·.1), Holds w.store name none

section

variable {regions : Regions} {declared : List (String × Declaration)} {keeps : Declaration → Bool}
  {c : Catalogue}

theorem Stocked.put {w' : Stage} (stock : Stocked regions declared keeps c w)
    (same : w'.regions = w.regions) (kept : w'.store = w.store) :
    Stocked regions declared keeps c w' :=
  ⟨same.trans stock.there, stock.entries, kept ▸ stock.held, kept ▸ stock.others⟩

theorem ensureAll_run (only : CacheOnly s) (staged : Staged regions declared)
    (stock : Stocked regions declared keeps c w) :
    ∃ c' store, (c.ensureAll registryOnly).run s.surroundings w =
        ((declared.mapM fun e => ensured regions e.1 e.2.definition, c'),
          { w with store := store }) ∧
      Stocked regions declared always c' { w with store := store } := by
  obtain ⟨rfl, entries, held, others⟩ := stock
  obtain ⟨store, run, held', same⟩ := ensureEntries_run only staged held
  refine ⟨_, store, ?_, rfl, rfl, held', fun name absent => same.holds absent (others name absent)⟩
  simp only [Catalogue.ensureAll, entries, Program.run_bind, run, Program.run_pure]

theorem destroyAll_run (s : Setting) (staged : Staged regions declared)
    (stock : Stocked regions declared keeps c w) :
    ∃ c' store, c.destroyAll.run s.surroundings w = ((.ok (), c'), { w with store := store }) ∧
      Stocked regions declared (fun d => keeps d && lasting d) c' { w with store := store } := by
  obtain ⟨rfl, entries, held, others⟩ := stock
  obtain ⟨store, run, held', same⟩ := destroyEntries_run s staged held
  refine ⟨_, store, ?_, rfl, rfl, held', fun name absent => same.holds absent (others name absent)⟩
  simp only [Catalogue.destroyAll, entries, Program.run_bind, run, Program.run_pure]

/-- Nothing runs and nothing is activated, and the indexes kept of earlier runs are there. -/
structure Ready (s : Setting) (present : Bool) (regions : Regions)
    (declared : List (String × Declaration)) (keeps : Declaration → Bool) (st : Startup)
    (w : Stage) : Prop where
  probed : s.probe.isPresent st.gate.capability = present
  realms : st.realms = numbered 0 s.accounts
  idle : st.lifecycle = .idle
  inactive : st.activation.active = none
  vacant : w.slot = none
  open_ : st.ended = false
  stock : Stocked regions declared keeps st.catalogue w

variable {present : Bool} {st : Startup}

theorem Ready.gates_run (ready : Ready s present regions declared keeps st w) :
    st.gates.run s.surroundings w = (⟨present, realmsConfigured st.realms⟩, w) :=
  ready.probed ▸ rfl

/-- A realm that does not start ends the run before anything else is done. -/
theorem run_locked {a : Accounts} (ready : Ready s present regions declared keeps st w)
    (first : (if present then s.accounts.find? (·.users.isEmpty) else none) = some a) :
    ∃ st', (st.run registryOnly).run s.surroundings w = ((.error (.activation (locked a)), st'), w) ∧
      Ready s present regions declared keeps st' w := by
  obtain ⟨l, secured⟩ := secure_run_locked (w := w) (realmsConfigured st.realms) ready.realms
    ready.idle first
  refine ⟨{ st with lifecycle := .idle }, ?_, { ready with idle := rfl }⟩
  simp only [Startup.run, Program.run_bind, ready.gates_run, secured, stopRealms_run,
    Program.run_pure]

/-- An index that cannot be ensured ends the run. Of those before it the lasting ones stay. -/
theorem run_failed (only : CacheOnly s) (staged : Staged regions declared) {failure : Failure}
    (ready : Ready s present regions declared keeps st w)
    (unlocked : (if present then s.accounts.find? (·.users.isEmpty) else none) = none)
    (fails : (declared.mapM fun e => ensured regions e.1 e.2.definition) = .error failure) :
    ∃ st' w', (st.run registryOnly).run s.surroundings w = ((.error failure, st'), w') ∧
      Ready s present regions declared lasting st' w' := by
  obtain ⟨l, a, enforced, secured⟩ := secure_run (realmsConfigured st.realms) ready.realms
    ready.idle ready.inactive ready.vacant unlocked
  have stocked : Stocked regions declared keeps st.catalogue
      { w with slot := a.active, enforced := enforced } := ready.stock.put rfl rfl
  obtain ⟨c, store, ensures, stock⟩ := ensureAll_run only staged stocked
  obtain ⟨c', store', destroys, stock'⟩ := destroyAll_run s staged stock
  obtain ⟨undone, warnings, deactivates⟩ := deactivate_run (s := s) (a := a)
    (w := { w with slot := a.active, enforced := enforced, store := store' }) rfl
  rw [fails] at ensures
  refine ⟨{ st with lifecycle := .idle, activation := { a with active := none }, catalogue := c' },
    { w with slot := none, enforced := enforced, store := store', warnings := warnings }, ?_, ?_⟩
  · simp only [Startup.run, Startup.rollback, Program.run_bind, ready.gates_run, secured, ensures,
      destroys, deactivates, stopRealms_run, Program.run_pure]
  · exact { ready with
      idle := rfl
      inactive := rfl
      vacant := rfl
      stock := stock'.put rfl rfl }

/-- With every index ensured the run succeeds, and every index is there. -/
theorem run_succeeds (only : CacheOnly s) (staged : Staged regions declared)
    {handles : List Handle} (ready : Ready s present regions declared keeps st w)
    (unlocked : (if present then s.accounts.find? (·.users.isEmpty) else none) = none)
    (ensures : (declared.mapM fun e => ensured regions e.1 e.2.definition) = .ok handles) :
    ∃ st' w', (st.run registryOnly).run s.surroundings w =
        ((.ok ⟨⟨present, realmsConfigured st.realms⟩, st.properties,
          Manager.ofRealms? ⟨st.activation.number, st.activation.serial⟩ st.realms, handles⟩, st'),
          w') ∧
      st'.gate = st.gate ∧ st'.ended = false ∧
      Stocked regions declared always st'.catalogue w' := by
  obtain ⟨l, a, enforced, secured⟩ := secure_run (realmsConfigured st.realms) ready.realms
    ready.idle ready.inactive ready.vacant unlocked
  have stocked : Stocked regions declared keeps st.catalogue
      { w with slot := a.active, enforced := enforced } := ready.stock.put rfl rfl
  obtain ⟨c, store, ensured, stock⟩ := ensureAll_run only staged stocked
  rw [ensures] at ensured
  refine ⟨{ st with lifecycle := l, activation := a, catalogue := c }, _, ?_, rfl, ready.open_,
    stock⟩
  simp only [Startup.run, Program.run_bind, ready.gates_run, secured, ensured, Program.run_pure,
    Startup.properties]

theorem shutdown_run (s : Setting) (staged : Staged regions declared) (open_ : st.ended = false)
    (stock : Stocked regions declared keeps st.catalogue w) :
    ∃ st' w', st.shutdown.run s.surroundings w = ((.ok (), st'), w') ∧
      Stocked regions declared (fun d => keeps d && lasting d) st'.catalogue w' := by
  obtain ⟨c, store, destroys, stock'⟩ := destroyAll_run s staged stock
  refine ⟨{ st with lifecycle := .idle, catalogue := c, ended := true }, _, ?_, stock'⟩
  simp only [Startup.shutdown, open_, Bool.false_eq_true, if_false, Program.run_bind, destroys,
    stopRealms_run, Program.run_pure]

/-- What a run returns, whatever earlier runs have left. -/
theorem startup_run (only : CacheOnly s) (staged : Staged regions declared)
    (ready : Ready s present regions declared keeps st w) :
    ((st.run registryOnly).run s.surroundings w).1.1 =
      match if present then s.accounts.find? (·.users.isEmpty) else none with
      | some a => .error (.activation (locked a))
      | none =>
        (declared.mapM fun e => ensured regions e.1 e.2.definition).map fun handles =>
          ⟨⟨present, realmsConfigured st.realms⟩, st.properties,
            Manager.ofRealms? ⟨st.activation.number, st.activation.serial⟩ st.realms, handles⟩ := by
  cases first : if present then s.accounts.find? (·.users.isEmpty) else none with
  | some a =>
    obtain ⟨_, run, -⟩ := run_locked ready first
    rw [run]
  | none =>
    cases each : declared.mapM fun e => ensured regions e.1 e.2.definition with
    | error failure =>
      obtain ⟨_, _, run, -⟩ := run_failed only staged ready first each
      rw [run]
      rfl
    | ok handles =>
      obtain ⟨_, _, run, -⟩ := run_succeeds only staged ready first each
      rw [run]
      rfl

end

end Rehearsal
end GatedStartup
