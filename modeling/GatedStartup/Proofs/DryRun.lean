import GatedStartup.Proofs.Integrations
import GatedStartup.Proofs.StagePass

/-! The dry run of a configuration in closed form: whether it composes, what fails first, and what
is reported when nothing does. -/
namespace GatedStartup

open Engine Index Lookup Text Declaration

namespace Declaration

/-- What becomes of an index that is declared first under its name, when just these regions are
there. A region that is referred to may be missing, one that is configured only if its path is made
of slashes and white space. -/
def foretold (paths : List String) (name : String) (d : Declaration) : Except Failure Handle :=
  match d.definition.region with
  | some region =>
    if region.fullPath ∈ paths then .ok ⟨name, region.fullPath, d.definition.coverage⟩
    else .error (.search (.createFailed name ("region " ++ region.fullPath ++ " does not exist")))
  | none =>
    match d.definition.configuredPath? with
    | none => .error (.configuration .missingRegion)
    | some path =>
      if path.toList.all fun c => c == '/' || isBlankChar c then
        .error (.search (.createFailed name ("region " ++ path ++ " does not exist")))
      else .ok ⟨name, joined (segments path), d.definition.coverage⟩

end Declaration

namespace Configuration

/-- The configuration declares the security integration present. -/
def integrated (c : Configuration) : Bool :=
  (c.integrations.flatMap EnvironmentProbe.entries).contains securityIntegration

def regionPaths (c : Configuration) : List String := c.indexes.flatMap Declaration.regionPaths

/-- What the first run of a composition returns. -/
def foretold (c : Configuration) : Except Failure Startup.Report :=
  match if c.integrated then c.realms.find? (·.users.isEmpty) else none with
  | some accounts => .error (.activation (Rehearsal.locked accounts))
  | none =>
    let outcomes := (firstNamed c.indexes).mapM fun e => Declaration.foretold c.regionPaths e.1 e.2
    outcomes.map fun handles =>
      ⟨⟨c.integrated, realmsConfigured (Rehearsal.realmsOf c.realms)⟩,
        (Rehearsal.startupOf c).properties,
        Manager.ofRealms? ⟨0, 0⟩ (Rehearsal.realmsOf c.realms), handles⟩

end Configuration

/-- Nothing in the environment tells of an integration. -/
structure Bare (environment : String → Option String) (programs : String → Bool) : Prop where
  list : environment integrationsVariable = none
  flag : environment "CACHEGATE_SECURITY_INTEGRATION" = none
  program : programs "cachegate-security" = false

section

variable {environment : String → Option String} {programs : String → Bool}

namespace EnvironmentProbe

theorem isPresent_configured (bare : Bare environment programs) (integrations : List String) :
    (configured integrations environment programs).isPresent securityIntegration =
      (integrations.flatMap entries).contains securityIntegration := by
  have nothing : (builtIn environment programs).isPresent securityIntegration = false := by
    have text : isBlank securityIntegration = false := by decide
    have known : (builtIn environment programs).descriptors.filter (·.name == securityIntegration) =
        [securityDescriptor] := by
      simp [builtIn, securityDescriptor]
    rw [isPresent, text, known]
    simp [declares, detects, builtIn, securityDescriptor, bare.list, bare.flag, bare.program]
  rw [isPresent_merged, nothing, Bool.false_or]

end EnvironmentProbe

namespace Rehearsal

variable {declarations : List Declaration} {d : Declaration}

theorem covers_createRegions (member : d ∈ declarations) :
    Covers (createRegions declarations) d.definition := by
  intro path canonical configured spelled
  rw [(createRegions_spec declarations).2]
  refine List.mem_flatMap.mpr ⟨d, member, ?_⟩
  simpa [regionPaths, configured] using mem_ancestry_self spelled

/-- A path without a segment has no region. -/
theorem contains_createRegions_uncanonical {path : String} (blank : canonical? path = none) :
    (createRegions declarations).contains path = false := by
  by_contra there
  obtain ⟨d, _, created⟩ :=
    List.mem_flatMap.mp (((createRegions_spec declarations).2 path).mp (by simpa using there))
  cases configured : d.definition.configuredPath? with
  | none => simp [regionPaths, configured] at created
  | some p =>
    have inside : path ∈ ancestry p := by simpa [regionPaths, configured] using created
    have own := canonical?_of_mem_ancestry inside
    simp [blank] at own

theorem ensured_eq_foretold (name : String) (member : d ∈ declarations) :
    ensured (createRegions declarations) name d.definition =
      d.foretold (declarations.flatMap regionPaths) name := by
  unfold ensured foretold soughtPath?
  cases d.definition.region with
  | some region => simp [(createRegions_spec declarations).2]
  | none =>
    cases configured : d.definition.configuredPath? with
    | none => rfl
    | some path =>
      simp only [← segments_eq_nil, ← canonical?_eq_none]
      cases spelled : canonical? path with
      | none => simp [spelled, contains_createRegions_uncanonical spelled]
      | some canonical =>
        obtain ⟨-, rfl⟩ := canonical?_eq_some.mp spelled
        simp [spelled, covers_createRegions member path _ configured spelled]

variable {c : Configuration}

theorem staged_firstNamed (declarations : List Declaration) :
    Staged (createRegions declarations) (firstNamed declarations) where
  canonical := (createRegions_spec declarations).1
  resolved _ member := name?_firstNamed member
  distinct := distinct_firstNamed declarations
  covers _ member := covers_createRegions (mem_of_firstNamed member)

theorem mapM_ensured (declarations : List Declaration) :
    (firstNamed declarations).mapM
        (fun e => ensured (createRegions declarations) e.1 e.2.definition) =
      (firstNamed declarations).mapM fun e =>
        Declaration.foretold (declarations.flatMap Declaration.regionPaths) e.1 e.2 :=
  Lists.mapM_congr fun _ member => ensured_eq_foretold _ (mem_of_firstNamed member)

/-- What is composed is ready for a run: the first declaration of each name is registered, and there
is no index yet. -/
theorem ready_compose {r : Rehearsal} (composed : compose c none environment programs = .ok r) :
    r.setting = settingOf c environment programs ∧ r.collaborators = registryOnly ∧
      r.startup.properties = (startupOf c).properties ∧
      r.startup.activation = (startupOf c).activation ∧
      Ready r.setting (r.setting.probe.isPresent securityIntegration) (createRegions c.indexes)
        (firstNamed c.indexes) never r.startup r.stage ∧
      r.stage.store = .empty := by
  have named : ∀ d ∈ c.indexes, d.name? ≠ none := by
    by_contra some_unnamed
    have unnamed : ∃ d ∈ c.indexes, d.name? = none := by simpa using some_unnamed
    simp [compose_unnamed unnamed] at composed
  obtain ⟨warnings, all⟩ := compose_named none environment programs named
  obtain rfl := Except.ok.inj (all.symm.trans composed)
  refine ⟨rfl, rfl, rfl, rfl, ⟨rfl, rfl, rfl, rfl, rfl, rfl, rfl, ?_, ?_, ?_⟩, rfl⟩
  · exact stocked_never.symm
  · rw [stocked_never]
    intro x member path
    obtain ⟨e, -, rfl⟩ := List.mem_map.mp member
    rfl
  · exact fun _ _ _ => rfl

/-- A composition runs as foretold. -/
theorem run_compose (bare : Bare environment programs) {r : Rehearsal}
    (composed : compose c none environment programs = .ok r) : r.run.1 = c.foretold := by
  obtain ⟨setting, collaborators, properties, activation, ready, -⟩ := ready_compose composed
  have probed : r.setting.probe.isPresent securityIntegration = c.integrated := by
    rw [setting]
    exact EnvironmentProbe.isPresent_configured bare c.integrations
  have only : CacheOnly r.setting := setting ▸ cacheOnly_settingOf c environment programs
  have foreseen := startup_run only (staged_firstNamed c.indexes) ready
  rw [probed, mapM_ensured, ready.realms, properties, activation, setting] at foreseen
  rw [run, perform, collaborators, setting, foreseen]
  rfl

/-- A configuration composes unless a declaration has neither a name nor a component to be called
after. What is composed runs as foretold. -/
theorem dry_run (c : Configuration) (bare : Bare environment programs) :
    (∀ error, compose c none environment programs = .error error ↔
      error = .missingField "index_name" ∧
        ∃ d ∈ c.indexes, isBlank d.definition.name = true ∧ isBlank d.component = true) ∧
      ∀ r, compose c none environment programs = .ok r → r.run.1 = c.foretold := by
  refine ⟨fun error => ?_, fun r => run_compose bare⟩
  simp only [← name?_eq_none]
  by_cases unnamed : ∃ d ∈ c.indexes, d.name? = none
  · rw [compose_unnamed unnamed, Except.error.injEq, eq_comm]
    exact (and_iff_left unnamed).symm
  · obtain ⟨_, composed⟩ := compose_named (c := c) none environment programs
      (by simpa using unnamed)
    simp [composed, unnamed]

/-- Realms that are never started, a name declared twice, and a path in an odd spelling. -/
def shop : Configuration where
  component := "shop"
  integrations := ["search, metrics"]
  attributes := .vacant
  realms := [⟨"staff", .empty⟩]
  indexes := [
    ⟨"shop", { Definition.vacant with name := " orders ", regionPath := some "sales//orders " }⟩,
    ⟨"orders", { Definition.vacant with fields := ["id"] }⟩,
    ⟨"stock", { Definition.vacant with regionPath := some "/stock", fields := ["sku"] }⟩]

theorem shop_dry_run :
    ∃ r, compose shop none (fun _ => none) (fun _ => false) = .ok r ∧
      r.run.1.map (·.indexes) = .ok [⟨"orders", "/sales/orders", .names [wholeValueField]⟩,
        ⟨"stock", "/stock", .names ["sku"]⟩] := by
  have bare : Bare (fun _ => none) fun _ => false := ⟨rfl, rfl, rfl⟩
  obtain ⟨fails, runs⟩ := dry_run shop bare
  cases composed : compose shop none (fun _ => none) (fun _ => false) with
  | error error =>
    obtain ⟨-, unnamed⟩ := (fails error).mp composed
    exact absurd unnamed (by decide)
  | ok r => exact ⟨r, rfl, by rw [runs r composed]; rfl⟩

end Rehearsal

end
end GatedStartup
