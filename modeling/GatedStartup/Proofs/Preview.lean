import GatedStartup.Proofs.PropertyAgreement
import GatedStartup.Proofs.Repetition

/-! What a run reports beside what the startup shows when it is asked. The gates are looked at anew,
the properties are assembled anew, and the manager may be that of an earlier run: they fit together
because a manager is only remembered while there are realms for it. -/
namespace GatedStartup

open Lookup Index

namespace PropertySet

variable {p : PropertySet} {key value k : String}

theorem contains_eq : p.contains key = (p.get? key).isSome := by
  rw [Bool.eq_iff_iff, contains, List.contains_iff_mem, Option.isSome_iff_ne_none, Ne, get?_eq_none,
    not_not]

theorem get?_setIfPresent : (p.setIfPresent key value).get? k =
    if k = key ∧ Text.isBlank value = false then some value else p.get? k := by
  cases blank : Text.isBlank value <;> simp [setIfPresent, blank]

theorem get?_setIfSome {value : Option String} :
    (p.setIfSome key value).get? k = if k = key then value.or (p.get? k) else p.get? k := by
  cases value <;> simp [setIfSome]

end PropertySet

/-- The property of the manager is written when security is enabled and a class for it is given, by
reference or by name. -/
theorem Attributes.contains_managerKey (a : Attributes) (enabled : Bool) :
    (a.properties enabled).contains managerKey = true ↔
      enabled = true ∧
        (a.managerClass.isUnset = false ∨ Text.isBlank a.managerClassName = false) := by
  have apart : managerKey ≠ clientKey ∧ managerKey ≠ peerKey ∧ managerKey ≠ postProcessorKey ∧
      managerKey ≠ shiroKey := by decide
  have absent : PropertySet.empty.get? managerKey = none := rfl
  rw [PropertySet.contains_eq, properties]
  cases enabled with
  | false => simp [PropertySet.get?_setIfPresent, PropertySet.get?_setIfSome, apart, absent]
  | true =>
    cases blank : Text.isBlank a.managerClassName <;> cases unset : a.managerClass.name? <;>
      simp [PropertySet.get?_setIfPresent, PropertySet.get?_setIfSome, apart, absent, blank, unset,
        ClassName.isUnset]

/-- No configurer touches the property of that key. -/
def Assembler.Spares (assembler : Assembler) (key : String) : Prop :=
  ∀ configure ∈ assembler.configurers, ∀ p : PropertySet,
    (configure assembler.component p).get? key = p.get? key

theorem Assembler.Spares.get?_assemble {assembler : Assembler} {key : String}
    (spares : assembler.Spares key) (a : Attributes) (enabled : Bool) :
    (assembler.assemble a enabled).get? key = (a.properties enabled).get? key := by
  obtain ⟨component, configurers⟩ := assembler
  rw [assemble]
  generalize a.properties enabled = p
  induction configurers generalizing p with
  | nil => rfl
  | cons configure rest ih =>
    obtain ⟨first, later⟩ := List.forall_mem_cons.mp spares
    exact (ih later _).trans (first p)

/-- What the activation remembers is a manager over the first of these realms, one at least. -/
def Activation.Covers (a : Activation) (realms : List Realm) : Prop :=
  ∀ m, a.active = some m → m.realms ≠ [] ∧ m.realms <+: realms

section

variable {a a' : Activation} {realms : List Realm} {t : Transcript} {s s' : Startup}

namespace Activation.Covers

theorem of_inactive (inactive : a.active = none) : a.Covers realms := by
  simp [Covers, inactive]

theorem append (covers : a.Covers realms) (more : List Realm) : a.Covers (realms ++ more) :=
  fun m active =>
    ⟨(covers m active).1, (covers m active).2.trans (List.prefix_append realms more)⟩

theorem activated {result : Except ActivationError (Option Manager)} (covers : a.Covers realms)
    (activated : Activated a realms t result a') : a'.Covers realms := by
  cases activated with
  | again | needless => exact covers
  | taken inactive | refused inactive => exact .of_inactive inactive
  | enforced _ configured =>
    intro m active
    obtain rfl : a.next realms = m := by simpa using active
    exact ⟨configured, List.prefix_rfl⟩

theorem realms_ne_nil {m : Manager} (covers : a.Covers realms) (active : a.active = some m) :
    realms ≠ [] := by
  obtain ⟨inhabited, first⟩ := covers m active
  rintro rfl
  exact inhabited (List.prefix_nil.mp first)

end Activation.Covers

theorem Secured.covers {result : Except ActivationError (Option Manager)}
    (secured : Secured s t result s') (before : s.activation.Covers s.realms) :
    s'.activation.Covers s.realms := by
  cases secured with
  | unstarted => exact before
  | started _ activated => exact before.activated activated

theorem Ran.covers {result : Except Failure Startup.Report} (ran : Ran s t result s')
    (before : s.activation.Covers s.realms) : s'.activation.Covers s'.realms := by
  rw [ran.realms_eq]
  cases ran with
  | unsecured secured => exact secured.covers before
  | succeeded secured => exact secured.covers before
  | rolledBack _ _ back =>
    cases back with
    | done _ deactivated _ => exact .of_inactive deactivated.inactive

theorem Called.covers {c : Call} {outcome : Call.Outcome} (called : Called s c t outcome s')
    (before : s.activation.Covers s.realms) : s'.activation.Covers s'.realms := by
  cases called with
  | registered | again | ended => exact before
  | realmAdded => exact before.append _
  | ran ran => exact ran.covers before

/-- Nothing but a run activates security. -/
theorem Called.inactive {c : Call} {outcome : Call.Outcome} (called : Called s c t outcome s')
    (unrun : ∀ result, outcome ≠ .ran result) (before : s.activation.active = none) :
    s'.activation.active = none := by
  cases called with
  | registered | realmAdded | again | ended => exact before
  | ran => exact absurd rfl (unrun _)

end

section

variable {h : Surroundings W} {k : Collaborators} {scene : Scene W} {report : Startup.Report}

theorem Operated.inactive (operated : Operated h scene)
    (unrun : ∀ result, .ran result ∉ scene.outcomes) :
    scene.startup.activation.active = none := by
  induction operated with
  | start s w untouched => exact untouched.inactive
  | configure _ _ ih => exact ih unrun
  | @call scene k c operated ih =>
    refine (operated.sound.called h k c).inactive (fun result same => ?_) (ih fun result early => ?_)
    · exact unrun result (same ▸ List.mem_concat_self)
    · exact unrun result (List.mem_append_left _ early)

theorem Operated.covers (operated : Operated h scene) :
    scene.startup.activation.Covers scene.startup.realms := by
  induction operated with
  | start s w untouched => exact .of_inactive untouched.inactive
  | configure operated unrun => exact .of_inactive (operated.inactive unrun)
  | @call scene k c operated ih => exact (operated.sound.called h k c).covers ih

/-- What is asked of the startup right after a run agrees with what the run has reported, and the
parts of the report with one another. -/
structure Scene.Previews (h : Surroundings W) (scene : Scene W) (report : Startup.Report) :
    Prop where
  gates : (scene.startup.gates.run h scene.world).1 = report.gates
  properties : scene.startup.properties = report.properties
  managed : report.manager.isSome = report.gates.realmsConfigured
  configured : report.gates.realmsConfigured = true ↔ scene.startup.realms ≠ []
  /-- The manager may be older than the last realms. -/
  covered : ∀ m, report.manager = some m → m.realms ≠ [] ∧ m.realms <+: scene.startup.realms
  property : scene.startup.assembler.Spares Attributes.managerKey →
    (report.properties.contains Attributes.managerKey = true ↔ scene.startup.realms ≠ [] ∧
      (scene.startup.attributes.managerClass.isUnset = false ∨
        Text.isBlank scene.startup.attributes.managerClassName = false))

theorem realmsConfigured_iff {realms : List Realm} : realmsConfigured realms = true ↔ realms ≠ [] := by
  simp [realmsConfigured]

/-- A report tells what was found when the integration was looked for. -/
theorem Scene.finds_of_ran (ran : scene.outcome h k .run = .ran (.ok report)) :
    scene.Finds h report.gates.integrationPresent := by
  obtain ⟨_, _, _, _, asked, -⟩ := Startup.run_ok_ends (scene.ran_ends ran)
  rw [scene.asked_run, Startup.run, Program.events_bind] at asked
  obtain ⟨first, -⟩ := List.cons.inj asked
  have answered := (Exchange.mk.inj first).2
  exact eq_of_heq answered

/-- As long as the integration is found after a run as it was found in it, a run that succeeds
reports what the startup shows. -/
theorem run_previewed (operated : Operated h scene)
    (succeeded : scene.outcome h k .run = .ran (.ok report))
    (stable : ∀ present, scene.Finds h present → (scene.after h k .run).Finds h present) :
    (scene.after h k .run).Previews h report := by
  have settled := Startup.run_settles (scene.ran_ends succeeded)
  have covers := (operated.call k .run).covers
  have found := stable _ (scene.finds_of_ran succeeded)
  have configured : report.gates.realmsConfigured = true ↔
      (scene.after h k .run).startup.realms ≠ [] := by
    rw [settled.configured, realmsConfigured_iff]
  refine ⟨?_, settled.properties.symm, ?_, configured, fun m reported => ?_, fun spares => ?_⟩
  · have looked : (scene.after h k .run).startup.gates.run h (scene.after h k .run).world =
        (⟨report.gates.integrationPresent, realmsConfigured (scene.after h k .run).startup.realms⟩,
          _) := congrArg (fun present => (Gates.mk present _, _)) found
    rw [looked, ← settled.configured]
  · rw [Bool.eq_iff_iff, configured, Option.isSome_iff_ne_none]
    constructor
    · intro managed
      obtain ⟨m, reported⟩ := Option.ne_none_iff_exists'.mp managed
      exact covers.realms_ne_nil (settled.manager.trans reported)
    · exact mt settled.needless
  · exact covers m (settled.manager.trans reported)
  · rw [settled.properties, Startup.properties, PropertySet.contains_eq, spares.get?_assemble,
      ← PropertySet.contains_eq, Attributes.contains_managerKey, realmsConfigured_iff]

end

namespace Trial

open Rehearsal

/-- A class for the manager is given by name, and a configurer adds a property of its own. -/
def configured : Scene Stage :=
  (opening [] "orders").configured ⟨theProbe, securityIntegration⟩ [staff]
    { Attributes.vacant with managerClassName := "acme.Manager" }
    ⟨"shop", [fun component p => p.set "name" component]⟩

/-- A run, a realm more, and a shutdown. -/
def reopened : Scene Stage :=
  next (next (next (next configured (.register "shop" { orders with destroyOnShutdown := false }))
    .run) (.addRealm guests)) .shutdown

/-- The manager of the first run is reported again, though a realm was added since. -/
theorem reopened_previewed :
    ∃ report, reopened.outcome setting.surroundings collaborators .run = .ran (.ok report) ∧
      report.manager = some ⟨⟨0, 0⟩, [staff]⟩ ∧
      (next reopened .run).startup.realms = [staff, guests] ∧
      (next reopened .run).startup.assembler.Spares Attributes.managerKey ∧
      report.properties.keys = [Attributes.managerKey, "name"] ∧
      (next reopened .run).Previews setting.surroundings report := by
  have operated : Operated setting.surroundings reopened :=
    .call _ _ (.call _ _ (.call _ _ (.call _ _ (.configure (.start _ _ ⟨rfl, rfl, rfl, rfl⟩)
      fun _ => List.not_mem_nil))))
  have spares : (next reopened .run).startup.assembler.Spares Attributes.managerKey := by
    intro configure listed p
    obtain rfl := List.mem_singleton.mp listed
    exact PropertySet.get?_set p "name" _ Attributes.managerKey
  exact ⟨_, rfl, rfl, rfl, spares, rfl, run_previewed operated rfl fun _ => id⟩

end Trial
end GatedStartup
