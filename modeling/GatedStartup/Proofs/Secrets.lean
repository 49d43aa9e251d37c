import GatedStartup.CommandLine.Run
import GatedStartup.Proofs.ManagedIndex
import Mathlib.Data.List.Forall2

/-! Secrets of the accounts. They are compared when a realm judges credentials and at no other
time, and no startup asks a realm for that. So two configurations that differ in nothing but secrets
cannot be told apart, whatever is done with them. -/
namespace GatedStartup

open Index Lookup

/-- Every question but the one that is answered with the help of secrets. -/
def Request.Discreet : Request → Prop
  | .authenticate _ _ => False
  | _ => True

theorem Request.consults.discreet {request : Request} (consults : request.consults) :
    request.Discreet := by
  cases request <;> trivial

/-- A program that needs no secret. -/
abbrev Discreet (p : Work α) : Prop := p.Asks Request.Discreet

theorem Lifecycle.discreet_start (l : Lifecycle) (realms : List Realm) :
    Discreet (l.start realms) := by
  induction realms generalizing l with
  | nil => exact Program.asks_pure _
  | cons realm rest ih =>
    rw [start]
    split
    · exact ih l
    · refine .bind (asks_ask.mpr trivial) fun answer => ?_
      cases answer with
      | error => exact Program.asks_pure _
      | ok => exact ih _

theorem Lifecycle.discreet_stop (l : Lifecycle) : Discreet l.stop := by
  have each (realms : List Realm) : Discreet (stopEach realms) := by
    induction realms with
    | nil => exact Program.asks_pure _
    | cons realm rest ih => exact .bind (asks_ask.mpr trivial) fun _ => ih
  exact .bind (each _) fun _ => Program.asks_pure _

namespace Activation

theorem discreet_activate (a : Activation) (realms : List Realm) :
    Discreet (a.activate realms) := by
  rw [activate]
  cases a.active with
  | some manager => exact Program.asks_pure _
  | none =>
    cases Manager.ofRealms? ⟨a.number, a.serial⟩ realms with
    | none => exact Program.asks_pure _
    | some manager =>
      refine .bind (asks_ask.mpr trivial) fun registered => ?_
      cases registered with
      | false => exact Program.asks_pure _
      | true =>
        refine .bind (asks_ask.mpr trivial) fun enforced => ?_
        cases enforced with
        | true => exact Program.asks_pure _
        | false =>
          refine .bind (asks_ask.mpr trivial) fun _ => ?_
          exact .bind (asks_ask.mpr trivial) fun _ => Program.asks_pure _

theorem discreet_deactivate (a : Activation) : Discreet a.deactivate := by
  rw [deactivate]
  cases a.active with
  | none => exact Program.asks_pure _
  | some manager =>
    refine .bind (asks_ask.mpr trivial) fun current => ?_
    have rest : Discreet (do
        ask (.warn .activationUndone)
        pure (true, { a with active := none }) : Work (Bool × Activation)) :=
      .bind (asks_ask.mpr trivial) fun _ => Program.asks_pure _
    dsimp only
    split
    · exact .bind (asks_ask.mpr trivial) fun _ => rest
    · exact rest

end Activation

namespace Index

theorem Managed.discreet_fetchOrCreate (service : Ref .service) (name path : String)
    (fields : Fields) : Discreet (fetchOrCreate service name path fields) := by
  refine .bind (asks_ask.mpr trivial) fun found => ?_
  cases found with
  | some handle => exact Program.asks_pure _
  | none =>
    refine .bind (asks_ask.mpr trivial) fun created => ?_
    cases created with
    | error => exact Program.asks_pure _
    | ok =>
      refine .bind (asks_ask.mpr trivial) fun found => ?_
      cases found <;> exact Program.asks_pure _

theorem Managed.discreet_acquire (k : Collaborators) (x : Managed) : Discreet (x.acquire k) := by
  rw [acquire]
  cases x.indexName with
  | error => exact Program.asks_pure _
  | ok name =>
    refine .bind (Collaborators.asks_resolveRegionPath.mono fun _ => (·.discreet)) fun path => ?_
    cases path with
    | error => exact Program.asks_pure _
    | ok path =>
      refine .bind (Collaborators.asks_resolveService.mono fun _ => (·.discreet)) fun service => ?_
      cases service with
      | none => exact Program.asks_pure _
      | some service =>
        refine .bind (discreet_fetchOrCreate ..) fun handle => ?_
        cases handle <;> exact Program.asks_pure _

theorem Managed.discreet_ensure (k : Collaborators) (x : Managed) : Discreet (x.ensure k) := by
  rw [ensure]
  cases x.binding with
  | some => exact Program.asks_pure _
  | none =>
    refine .bind (discreet_acquire k x) fun acquired => ?_
    cases acquired <;> exact Program.asks_pure _

theorem Managed.discreet_destroy (x : Managed) : Discreet x.destroy := by
  rw [destroy]
  split
  · cases x.binding with
    | none => exact Program.asks_pure _
    | some binding =>
      refine .bind (asks_ask.mpr trivial) fun destroyed => ?_
      cases destroyed <;> exact Program.asks_pure _
  · exact Program.asks_pure _

namespace Catalogue

theorem discreet_register (c : Catalogue) (component : String) (d : Definition) :
    Discreet (c.register component d) := by
  rw [register]
  cases (Managed.unbound d (some component)).indexName with
  | error => exact Program.asks_pure _
  | ok name =>
    dsimp only
    cases c.get? name with
    | none => exact Program.asks_pure _
    | some known =>
      dsimp only
      split
      · exact Program.asks_pure _
      · exact .bind (asks_ask.mpr trivial) fun _ => Program.asks_pure _

theorem discreet_ensureAll (k : Collaborators) (c : Catalogue) : Discreet (c.ensureAll k) := by
  have each (entries : List (String × Managed)) : Discreet (ensureEntries k entries) := by
    induction entries with
    | nil => exact Program.asks_pure _
    | cons entry rest ih =>
      refine .bind (Managed.discreet_ensure k entry.2) fun ensured => ?_
      obtain ⟨result, x⟩ := ensured
      cases result with
      | error => exact Program.asks_pure _
      | ok => exact .bind ih fun _ => Program.asks_pure _
  exact .bind (each _) fun _ => Program.asks_pure _

theorem discreet_destroyAll (c : Catalogue) : Discreet c.destroyAll := by
  have each (entries : List (String × Managed)) : Discreet (destroyEntries entries) := by
    induction entries with
    | nil => exact Program.asks_pure _
    | cons entry rest ih =>
      refine .bind ih fun _ => .bind (Managed.discreet_destroy entry.2) fun destroyed => ?_
      obtain ⟨result, x⟩ := destroyed
      cases result with
      | error => exact .bind (asks_ask.mpr trivial) fun _ => Program.asks_pure _
      | ok => exact Program.asks_pure _
  refine .bind (each _) fun destroyed => ?_
  obtain ⟨failed, entries⟩ := destroyed
  cases failed <;> exact Program.asks_pure _

end Catalogue
end Index

namespace Startup

theorem discreet_register (s : Startup) (component : String) (d : Definition) :
    Discreet (s.register component d) :=
  .bind (s.catalogue.discreet_register component d) fun _ => Program.asks_pure _

theorem discreet_gates (s : Startup) : Discreet s.gates :=
  .bind (asks_ask.mpr trivial) fun _ => Program.asks_pure _

theorem discreet_secure (s : Startup) (gates : Gates) : Discreet (s.secure gates) := by
  have starts : Discreet (s.startRealms gates) := by
    rw [startRealms]
    split
    · exact .bind (s.lifecycle.discreet_start s.realms) fun _ => Program.asks_pure _
    · exact Program.asks_pure _
  refine .bind starts fun started => ?_
  obtain ⟨result, s⟩ := started
  cases result with
  | error => exact Program.asks_pure _
  | ok => exact .bind (s.activation.discreet_activate s.realms) fun _ => Program.asks_pure _

theorem discreet_stopRealms (s : Startup) : Discreet s.stopRealms :=
  .bind s.lifecycle.discreet_stop fun _ => Program.asks_pure _

theorem discreet_rollback (s : Startup) : Discreet s.rollback := by
  refine .bind s.catalogue.discreet_destroyAll fun destroyed => ?_
  have rest (c : Catalogue) : Discreet (s.activation.deactivate >>= fun undone =>
      { s with catalogue := c, activation := undone.2 }.stopRealms) :=
    .bind s.activation.discreet_deactivate fun _ => discreet_stopRealms _
  obtain ⟨result, c⟩ := destroyed
  cases result with
  | error => exact .bind (asks_ask.mpr trivial) fun _ => rest c
  | ok => exact rest c

theorem discreet_run (s : Startup) (k : Collaborators) : Discreet (s.run k) := by
  refine .bind s.discreet_gates fun gates => .bind (s.discreet_secure gates) fun secured => ?_
  obtain ⟨result, s⟩ := secured
  cases result with
  | error => exact .bind s.discreet_stopRealms fun _ => Program.asks_pure _
  | ok manager =>
    refine .bind (s.catalogue.discreet_ensureAll k) fun ensured => ?_
    obtain ⟨result, c⟩ := ensured
    cases result with
    | error => exact .bind (discreet_rollback _) fun _ => Program.asks_pure _
    | ok => exact Program.asks_pure _

theorem discreet_shutdown (s : Startup) : Discreet s.shutdown := by
  rw [shutdown]
  split
  · exact Program.asks_pure _
  · refine .bind s.catalogue.discreet_destroyAll fun destroyed => ?_
    obtain ⟨result, c⟩ := destroyed
    cases result with
    | error =>
      refine .bind (asks_ask.mpr trivial) fun _ => ?_
      exact .bind (discreet_stopRealms _) fun _ => Program.asks_pure _
    | ok => exact .bind (discreet_stopRealms _) fun _ => Program.asks_pure _

end Startup

/-- The same users, each perhaps with another secret. -/
structure Accounts.Alike (a a' : Accounts) : Prop where
  name : a.name = a'.name
  users : a.users.keys = a'.users.keys

structure Configuration.Alike (c c' : Configuration) : Prop where
  component : c.component = c'.component
  integrations : c.integrations = c'.integrations
  attributes : c.attributes = c'.attributes
  realms : List.Forall₂ Accounts.Alike c.realms c'.realms
  indexes : c.indexes = c'.indexes

theorem Configuration.Alike.refl (c : Configuration) : c.Alike c :=
  ⟨rfl, rfl, rfl, List.forall₂_same.mpr fun _ _ => ⟨rfl, rfl⟩, rfl⟩

namespace Accounts.Alike

variable {a a' : Accounts}

theorem start_eq (alike : a.Alike a') : a.start = a'.start := by
  have empty : a.users.isEmpty = a'.users.isEmpty := by
    have same := congrArg List.isEmpty alike.users
    simpa [Table.keys, Table.isEmpty] using same
  rw [start, start, empty, alike.name]

theorem describe_eq (alike : a.Alike a') : a.describe = a'.describe := by
  rw [describe, describe, alike.name, alike.users]

end Accounts.Alike

namespace Rehearsal

structure Setting.Alike (s s' : Setting) : Prop where
  probe : s.probe = s'.probe
  accounts : List.Forall₂ Accounts.Alike s.accounts s'.accounts
  directory : s.directory = s'.directory

namespace Setting.Alike

variable {s s' : Setting}

theorem startRealm_eq (alike : s.Alike s') (realm : Realm) :
    s.startRealm realm = s'.startRealm realm := by
  have same := Lists.forall₂_getElem? alike.accounts realm.number
  rw [startRealm, startRealm]
  generalize s.accounts[realm.number]? = found, s'.accounts[realm.number]? = found' at same ⊢
  cases same with
  | none => rfl
  | some same => exact same.start_eq

theorem describeRealm_eq (alike : s.Alike s') : s.describeRealm = s'.describeRealm := by
  funext realm
  have same := Lists.forall₂_getElem? alike.accounts realm.number
  rw [describeRealm, describeRealm]
  generalize s.accounts[realm.number]? = found, s'.accounts[realm.number]? = found' at same ⊢
  cases same with
  | none => rfl
  | some same => exact same.describe_eq

/-- Without the secrets the surroundings are the same. -/
theorem surroundings_eq (alike : s.Alike s') (request : Request) (w : Stage)
    (discreet : request.Discreet) : s.surroundings request w = s'.surroundings request w := by
  cases request with
  | authenticate => contradiction
  | startRealm realm => exact congrArg (·, w) (alike.startRealm_eq realm)
  | probe | cacheComponent | serviceComponent =>
    simp only [surroundings, cacheComponent, serviceComponent, alike.probe, alike.directory]
  | _ => rfl

theorem run_eq (alike : s.Alike s') {p : Work α} (discreet : Discreet p) (w : Stage) :
    p.run s.surroundings w = p.run s'.surroundings w :=
  discreet.run_eq alike.surroundings_eq w

end Setting.Alike

/-- The same rehearsal, but that its accounts may have other secrets. -/
structure Alike (r r' : Rehearsal) : Prop where
  setting : r.setting.Alike r'.setting
  collaborators : r.collaborators = r'.collaborators
  startup : r.startup = r'.startup
  stage : r.stage = r'.stage

theorem realmsOf_eq {accounts accounts' : List Accounts}
    (alike : List.Forall₂ Accounts.Alike accounts accounts') :
    realmsOf accounts = realmsOf accounts' := by
  have named (accounts : List Accounts) : realmsOf accounts =
      (accounts.map (·.name)).zipIdx.map fun entry => ⟨entry.2, entry.1⟩ := by
    simp [realmsOf, List.zipIdx_map]
  rw [named, named, Lists.map_eq_of_forall₂ alike fun _ _ same => same.name]

theorem discreet_registerAll (s : Startup) (declarations : List Declaration) :
    Discreet (registerAll s declarations) := by
  induction declarations generalizing s with
  | nil => exact Program.asks_pure _
  | cons declaration rest ih =>
    refine .bind (s.discreet_register declaration.component declaration.definition) fun done => ?_
    obtain ⟨result, s⟩ := done
    cases result with
    | error => exact Program.asks_pure _
    | ok => exact ih s

section

variable (environment : String → Option String) (programs : String → Bool)

theorem settingOf_alike {c c' : Configuration} (alike : c.Alike c') :
    (settingOf c environment programs).Alike (settingOf c' environment programs) where
  probe := by rw [settingOf, settingOf, alike.integrations]
  accounts := alike.realms
  directory := by rw [settingOf, settingOf, alike.component]

/-- Declarations are registered in the same way. -/
theorem registerAll_alike {c c' : Configuration} (alike : c.Alike c') (slot : Option Manager) :
    (registerAll (startupOf c) c.indexes).run (settingOf c environment programs).surroundings
        (stageOf c slot) =
      (registerAll (startupOf c') c'.indexes).run (settingOf c' environment programs).surroundings
        (stageOf c' slot) := by
  have setting := settingOf_alike environment programs alike
  have startup : startupOf c = startupOf c' := by
    rw [startupOf, startupOf, alike.component, alike.attributes, realmsOf_eq alike.realms]
  have stage : stageOf c slot = stageOf c' slot := by rw [stageOf, stageOf, alike.indexes]
  rw [setting.run_eq (discreet_registerAll (startupOf c) c.indexes), stage, startup, alike.indexes]

/-- Both configurations are refused for the same reason, or both are accepted. -/
theorem compose_alike {c c' : Configuration} (alike : c.Alike c') (slot : Option Manager) :
    (∃ error, compose c slot environment programs = .error error ∧
        compose c' slot environment programs = .error error) ∨
      ∃ r r', compose c slot environment programs = .ok r ∧
        compose c' slot environment programs = .ok r' ∧ Alike r r' := by
  simp only [compose]
  rw [registerAll_alike environment programs alike slot]
  cases ((registerAll (startupOf c') c'.indexes).run
      (settingOf c' environment programs).surroundings (stageOf c' slot)).1.1 with
  | error error => exact .inl ⟨error, rfl, rfl⟩
  | ok => exact .inr ⟨_, _, rfl, rfl, settingOf_alike environment programs alike, rfl, rfl, rfl⟩

end

namespace Alike

variable {r r' : Rehearsal}

theorem perform (alike : r.Alike r') {work : Work (α × Startup)} (discreet : Discreet work) :
    (r.perform work).1 = (r'.perform work).1 ∧ (r.perform work).2.Alike (r'.perform work).2 := by
  obtain ⟨setting, collaborators, startup, stage⟩ := alike
  simp only [Rehearsal.perform]
  rw [setting.run_eq discreet, stage]
  exact ⟨rfl, setting, collaborators, rfl, rfl⟩

theorem run (alike : r.Alike r') : r.run.1 = r'.run.1 ∧ r.run.2.Alike r'.run.2 := by
  rw [Rehearsal.run, Rehearsal.run, ← alike.startup, ← alike.collaborators]
  exact alike.perform (r.startup.discreet_run r.collaborators)

theorem shutdown (alike : r.Alike r') :
    r.shutdown.1 = r'.shutdown.1 ∧ r.shutdown.2.Alike r'.shutdown.2 := by
  rw [Rehearsal.shutdown, Rehearsal.shutdown, ← alike.startup]
  exact alike.perform r.startup.discreet_shutdown

theorem gates_eq (alike : r.Alike r') : r.gates = r'.gates := by
  rw [gates, gates, ← alike.startup, ← alike.stage, alike.setting.run_eq r.startup.discreet_gates]

end Alike

/-- A rehearsal, and the reports of its runs that succeeded. -/
structure Production where
  rehearsal : Rehearsal
  reports : List Startup.Report

/-- The rehearsals of one process, in the order they were composed. They share the slot. -/
structure Theatre where
  slot : Option Manager
  productions : List Production

inductive Form where
  | text | json | debug

inductive Act where
  | compose (c : Configuration)
  | gates (place : Nat)
  | properties (place : Nat) (format : CommandLine.Format)
  | run (place : Nat)
  | report (place number : Nat) (form : Form)
  | shutdown (place : Nat)

inductive Outcome where
  /-- There is no such rehearsal, or no such report. -/
  | absent
  | composed (result : Except CommandError Unit) (warnings : List Warning)
  | shown (text : String)
  | ran (result : Except CommandError Startup.Report)
  | ended (result : Except CommandError Unit)

/-- All there is to see, which is all but the accounts. -/
structure View where
  slot : Option Manager
  productions : List (Startup × Stage × List Startup.Report)

namespace Theatre

def view (t : Theatre) : View :=
  ⟨t.slot, t.productions.map fun p => (p.rehearsal.startup, p.rehearsal.stage, p.reports)⟩

/-- The rehearsal finds the slot as the others have left it. -/
def entering (t : Theatre) (r : Rehearsal) : Rehearsal := { r with stage.slot := t.slot }

def left (t : Theatre) (place : Nat) (r : Rehearsal) (reports : List Startup.Report) : Theatre :=
  ⟨r.stage.slot, t.productions.set place ⟨r, reports⟩⟩

def shown (t : Theatre) (place : Nat) (text? : Production → Option String) : Outcome :=
  match t.productions[place]?.bind text? with
  | none => .absent
  | some text => .shown text

end Theatre

/-- The activation of a rehearsal goes by its place. -/
def numberedBy (r : Rehearsal) (place : Nat) : Rehearsal :=
  { r with startup.activation.number := place }

def Production.render (p : Production) (form : Form) (report : Startup.Report) : String :=
  match form with
  | .text => report.text p.rehearsal.stage.enforced
  | .json => report.jsonText p.rehearsal.stage.enforced
  | .debug => report.describe p.rehearsal.setting.describeRealm

/-- What composing warns of, also when it is refused in the end. -/
def composingWarnings (c : Configuration) (slot : Option Manager)
    (environment : String → Option String) (programs : String → Bool) : List Warning :=
  ((registerAll (startupOf c) c.indexes).run (settingOf c environment programs).surroundings
    (stageOf c slot)).2.warnings

def Act.perform (environment : String → Option String) (programs : String → Bool) (t : Theatre) :
    Act → Outcome × Theatre
  | .compose c =>
    let warnings := composingWarnings c t.slot environment programs
    match Rehearsal.compose c t.slot environment programs with
    | .error error => (.composed (.error (.ofConfigurationError error)) warnings, t)
    | .ok r =>
      (.composed (.ok ()) warnings,
        { t with productions := t.productions ++ [⟨numberedBy r t.productions.length, []⟩] })
  | .gates place => (t.shown place fun p => some (CommandLine.showGates p.rehearsal), t)
  | .properties place format =>
    (t.shown place fun p =>
      some (CommandLine.showProperties format p.rehearsal.startup.properties), t)
  | .run place =>
    match t.productions[place]? with
    | none => (.absent, t)
    | some p =>
      let (result, r) := (t.entering p.rehearsal).run
      (.ran (result.mapError .ofFailure), t.left place r (p.reports ++ result.toOption.toList))
  | .report place number form => (t.shown place fun p => p.reports[number]?.map (p.render form), t)
  | .shutdown place =>
    match t.productions[place]? with
    | none => (.absent, t)
    | some p =>
      let (result, r) := (t.entering p.rehearsal).shutdown
      (.ended (result.mapError .ofFailure), t.left place r p.reports)

/-- What is seen, act by act. -/
def play (environment : String → Option String) (programs : String → Bool) :
    List Act → Theatre → List (Outcome × View)
  | [], _ => []
  | act :: acts, t =>
    let (outcome, t) := act.perform environment programs t
    (outcome, t.view) :: play environment programs acts t

/-- The same act, but that a configuration may have other secrets. -/
inductive Act.Alike : Act → Act → Prop where
  | compose {c c' : Configuration} : c.Alike c' → Alike (.compose c) (.compose c')
  | same (act : Act) : Alike act act

structure Production.Alike (p p' : Production) : Prop where
  rehearsal : p.rehearsal.Alike p'.rehearsal
  reports : p.reports = p'.reports

structure Theatre.Alike (t t' : Theatre) : Prop where
  slot : t.slot = t'.slot
  productions : List.Forall₂ Production.Alike t.productions t'.productions

namespace Production.Alike

variable {p p' : Production}

theorem render_eq (alike : p.Alike p') (form : Form) (report : Startup.Report) :
    p.render form report = p'.render form report := by
  obtain ⟨⟨setting, -, -, stage⟩, -⟩ := alike
  cases form with
  | text => exact congrArg (fun w : Stage => report.text w.enforced) stage
  | json => exact congrArg (fun w : Stage => report.jsonText w.enforced) stage
  | debug => exact congrArg report.describe setting.describeRealm_eq

end Production.Alike

namespace Theatre.Alike

variable {t t' : Theatre}

theorem view_eq (alike : t.Alike t') : t.view = t'.view := by
  refine congrArg₂ View.mk alike.slot (Lists.map_eq_of_forall₂ alike.productions fun p p' same => ?_)
  obtain ⟨⟨-, -, startup, stage⟩, reports⟩ := same
  rw [startup, stage, reports]

theorem shown_eq (alike : t.Alike t') (place : Nat) {text? : Production → Option String}
    (same : ∀ p p', Production.Alike p p' → text? p = text? p') :
    t.shown place text? = t'.shown place text? := by
  have found := Lists.forall₂_getElem? alike.productions place
  rw [shown, shown]
  generalize t.productions[place]? = p, t'.productions[place]? = p' at found ⊢
  cases found with
  | none => rfl
  | some found => rw [Option.bind_some, Option.bind_some, same _ _ found]

theorem entering (alike : t.Alike t') {r r' : Rehearsal} (same : r.Alike r') :
    (t.entering r).Alike (t'.entering r') := by
  obtain ⟨setting, collaborators, startup, stage⟩ := same
  refine ⟨setting, collaborators, startup, ?_⟩
  rw [Theatre.entering, Theatre.entering, stage, alike.slot]

theorem left (alike : t.Alike t') {r r' : Rehearsal} (same : r.Alike r') (place : Nat)
    (reports : List Startup.Report) :
    (t.left place r reports).Alike (t'.left place r' reports) :=
  ⟨congrArg Stage.slot same.stage, Lists.forall₂_set alike.productions place ⟨same, rfl⟩⟩

end Theatre.Alike

section

variable (environment : String → Option String) (programs : String → Bool) {t t' : Theatre}

theorem perform_compose {c c' : Configuration} (same : c.Alike c') (alike : t.Alike t') :
    ((Act.compose c).perform environment programs t).1 =
        ((Act.compose c').perform environment programs t').1 ∧
      ((Act.compose c).perform environment programs t).2.Alike
        ((Act.compose c').perform environment programs t').2 := by
  have warnings : composingWarnings c t.slot environment programs =
      composingWarnings c' t'.slot environment programs := by
    rw [composingWarnings, composingWarnings, registerAll_alike _ _ same, alike.slot]
  obtain ⟨error, first, second⟩ | ⟨r, r', first, second, composed⟩ :=
    compose_alike environment programs same t.slot
  · rw [alike.slot] at second
    simp only [Act.perform, first, second, warnings]
    exact ⟨trivial, alike⟩
  · rw [alike.slot] at second
    simp only [Act.perform, first, second, warnings]
    refine ⟨trivial, alike.slot, List.rel_append alike.productions (.cons ⟨?_, rfl⟩ .nil)⟩
    obtain ⟨setting, collaborators, startup, stage⟩ := composed
    refine ⟨setting, collaborators, ?_, stage⟩
    rw [numberedBy, numberedBy, startup, alike.productions.length_eq]

/-- The same act shows the same, and leaves behind what cannot be told apart. -/
theorem perform_same (act : Act) (alike : t.Alike t') :
    (act.perform environment programs t).1 = (act.perform environment programs t').1 ∧
      (act.perform environment programs t).2.Alike (act.perform environment programs t').2 := by
  cases act with
  | compose c => exact perform_compose environment programs (.refl c) alike
  | gates place =>
    refine ⟨alike.shown_eq place fun p p' same => congrArg some ?_, alike⟩
    rw [CommandLine.showGates, CommandLine.showGates, same.rehearsal.gates_eq,
      same.rehearsal.startup]
  | properties place format =>
    refine ⟨alike.shown_eq place fun p p' same => congrArg some ?_, alike⟩
    rw [same.rehearsal.startup]
  | report place number form =>
    refine ⟨alike.shown_eq place fun p p' same => ?_, alike⟩
    rw [same.reports, funext (same.render_eq form)]
  | run place =>
    have found := Lists.forall₂_getElem? alike.productions place
    simp only [Act.perform]
    generalize t.productions[place]? = p, t'.productions[place]? = p' at found ⊢
    cases found with
    | none => exact ⟨rfl, alike⟩
    | some found =>
      obtain ⟨result, after⟩ := (alike.entering found.rehearsal).run
      simp only [result, found.reports]
      exact ⟨trivial, alike.left after place _⟩
  | shutdown place =>
    have found := Lists.forall₂_getElem? alike.productions place
    simp only [Act.perform]
    generalize t.productions[place]? = p, t'.productions[place]? = p' at found ⊢
    cases found with
    | none => exact ⟨rfl, alike⟩
    | some found =>
      obtain ⟨result, after⟩ := (alike.entering found.rehearsal).shutdown
      simp only [result, found.reports]
      exact ⟨trivial, alike.left after place _⟩

theorem play_alike {acts acts' : List Act} (same : List.Forall₂ Act.Alike acts acts')
    (alike : t.Alike t') :
    play environment programs acts t = play environment programs acts' t' := by
  induction same generalizing t t' with
  | nil => rfl
  | @cons act act' _ _ first _ ih =>
    obtain ⟨outcome, after⟩ : (act.perform environment programs t).1 =
        (act'.perform environment programs t').1 ∧ (act.perform environment programs t).2.Alike
          (act'.perform environment programs t').2 := by
      cases first with
      | compose same => exact perform_compose environment programs same alike
      | same => exact perform_same environment programs act alike
    simp only [play]
    rw [outcome, after.view_eq, ih after]

end

/-- Configurations that differ in nothing but secrets are answered in the same way, act by act,
whatever is composed, shown, run and shut down. -/
theorem secrets_unseen (environment : String → Option String) (programs : String → Bool)
    (slot : Option Manager) {acts acts' : List Act} (same : List.Forall₂ Act.Alike acts acts') :
    play environment programs acts ⟨slot, []⟩ = play environment programs acts' ⟨slot, []⟩ :=
  play_alike environment programs same ⟨rfl, .nil⟩

/-- Realms in which everybody has the same secret. -/
def clinic (secret : String) : Configuration where
  component := "clinic"
  integrations := [securityIntegration]
  attributes := .vacant
  realms := [⟨"staff", .ofList [("ann", secret), ("eve", secret)]⟩,
    ⟨"guests", .ofList [("bob", secret)]⟩]
  indexes := [⟨"clinic", { Definition.vacant with name := "rooms", regionPath := some "/rooms" }⟩]

/-- The second rehearsal finds the slot taken. -/
def season (secret : String) : List Act :=
  [.compose (clinic secret), .gates 0, .properties 0 .json, .run 0, .report 0 0 .debug,
    .compose (clinic secret), .run 1, .shutdown 1, .report 0 0 .text, .shutdown 0]

theorem season_unseen :
    clinic "key" ≠ clinic "lock" ∧
      play (fun _ => none) (fun _ => false) (season "key") ⟨none, []⟩ =
        play (fun _ => none) (fun _ => false) (season "lock") ⟨none, []⟩ := by
  have alike : (clinic "key").Alike (clinic "lock") :=
    ⟨rfl, rfl, rfl, .cons ⟨rfl, rfl⟩ (.cons ⟨rfl, rfl⟩ .nil), rfl⟩
  have same : List.Forall₂ Act.Alike (season "key") (season "lock") :=
    .cons (.compose alike) (.cons (.same _) (.cons (.same _) (.cons (.same _) (.cons (.same _)
      (.cons (.compose alike) (List.forall₂_same.mpr fun act _ => .same act))))))
  exact ⟨by decide, secrets_unseen _ _ none same⟩

example : (settingOf (clinic "key") (fun _ => none) fun _ => false).describeRealm ⟨0, "staff"⟩ =
    "StaticRealm \x7b name: \"staff\", users: [\"ann\", \"eve\"] \x7d" := by
  rfl

end Rehearsal
end GatedStartup
