import GatedStartup.Proofs.Trimming
import GatedStartup.Rehearsal.Composition

/-! Integrations from a configuration beside those of the environment. The lists are put together as
text and taken apart again; what comes of it is the union. -/
namespace GatedStartup.EnvironmentProbe

open Text

variable {integrations : List String} {environment : String → Option String}
  {programs : String → Bool} {capability list : String}

theorem entries_joined (list other : String) :
    entries (list ++ "," ++ other) = entries list ++ entries other := by
  rw [entries, split_append (by simp), List.filterMap_append, entries, entries]

/-- The entries of lists joined by commas are those of the lists. -/
theorem entries_intercalate (lists : List String) :
    entries (",".intercalate lists) = lists.flatMap entries := by
  induction lists with
  | nil => rfl
  | cons list rest ih =>
    cases rest with
    | nil => simp
    | cons next rest =>
      rw [String.intercalate_cons_cons, List.flatMap_cons, ← ih, entries_joined]

/-- The entries are the parts with text, trimmed. -/
theorem mem_entries :
    capability ∈ entries list ↔
      isBlank capability = false ∧ capability ∈ (split ',' list).map trim := by
  simp only [entries, List.mem_filterMap, List.mem_map, trimmed?_eq_some]
  constructor
  · rintro ⟨part, member, text, same⟩
    exact ⟨text, part, member, same⟩
  · rintro ⟨text, part, member, same⟩
    exact ⟨part, member, text, same⟩

/-- A blank list has no entry. -/
theorem entries_blank (blank : isBlank list = true) : entries list = [] := by
  have gaps : list.toList.all (fun c => c == ',' || isBlankChar c) = true := by
    rw [isBlank, List.all_eq_true] at blank
    rw [List.all_eq_true]
    intro c inside
    simp [blank c inside]
  rw [List.eq_nil_iff_forall_not_mem]
  intro entry member
  obtain ⟨text, trimmed⟩ := mem_entries.mp member
  obtain ⟨part, cut, rfl⟩ := List.mem_map.mp trimmed
  obtain ⟨piece, there, rfl⟩ := List.mem_map.mp cut
  rw [isBlank_trim, isBlank, String.toList_ofList,
    all_blank_splitChars.mpr gaps piece there] at text
  contradiction

/-- Whatever the environment has in its variable, the configured entries come on top. -/
theorem declares_configured (capability : String) :
    (configured integrations environment programs).declares capability =
      ((builtIn environment programs).declares capability ||
        (integrations.flatMap entries).contains capability) := by
  rw [← entries_intercalate]
  have nothing : entries "" = [] := rfl
  by_cases none : ",".intercalate integrations = ""
  · simp [declares, configured, builtIn, mergedVariables, none, nothing]
  · cases declared : environment integrationsVariable with
    | none => simp [declares, configured, builtIn, mergedVariables, none, declared]
    | some list =>
      cases blank : isBlank list with
      | true =>
        simp [declares, configured, builtIn, mergedVariables, none, declared, blank,
          entries_blank blank]
      | false =>
        simp [declares, configured, builtIn, mergedVariables, none, declared, blank,
          entries_joined]

/-- The other variables and the programs are as they were. -/
theorem detects_configured :
    securityDescriptor.detections.any (configured integrations environment programs).detects =
      securityDescriptor.detections.any (builtIn environment programs).detects := by
  have other : "CACHEGATE_SECURITY_INTEGRATION" ≠ integrationsVariable := by decide
  simp [securityDescriptor, detects, configured, builtIn, mergedVariables, other]

theorem isPresent_merged (integrations : List String) (environment : String → Option String)
    (programs : String → Bool) (capability : String) :
    (configured integrations environment programs).isPresent capability =
      ((builtIn environment programs).isPresent capability ||
        (integrations.flatMap entries).contains capability) := by
  cases blank : isBlank capability with
  | true =>
    have absent : capability ∉ integrations.flatMap entries := by
      intro member
      obtain ⟨list, -, inside⟩ := List.mem_flatMap.mp member
      rw [(mem_entries.mp inside).1] at blank
      nomatch blank
    simp [isPresent, blank, absent]
  | false =>
    have detected : ((configured integrations environment programs).descriptors.filter
          (·.name == capability)).any
            (fun d => d.detections.any (configured integrations environment programs).detects) =
        ((builtIn environment programs).descriptors.filter (·.name == capability)).any
            (fun d => d.detections.any (builtIn environment programs).detects) := by
      cases known : securityDescriptor.name == capability with
      | true => simpa [configured, builtIn, known] using detects_configured
      | false => simp [configured, builtIn, known]
    rw [isPresent, isPresent, blank, if_neg Bool.false_ne_true, if_neg Bool.false_ne_true, detected,
      declares_configured, Bool.or_right_comm]

/-- What configured lists do to the probe of the environment. -/
structure Added (integrations : List String) (environment : String → Option String)
    (programs : String → Bool) : Prop where
  union : ∀ capability,
    (configured integrations environment programs).isPresent capability = true ↔
      isBlank capability = false ∧
        ((builtIn environment programs).isPresent capability = true ∨
          ∃ list ∈ integrations, capability ∈ (split ',' list).map trim)
  /-- Nothing is hidden. -/
  kept : ∀ capability, (builtIn environment programs).isPresent capability = true →
    (configured integrations environment programs).isPresent capability = true
  /-- Neither the order of the lists counts, nor how often each is there. -/
  unordered : ∀ others, (∀ list, list ∈ others ↔ list ∈ integrations) → ∀ capability,
    (configured others environment programs).isPresent capability =
      (configured integrations environment programs).isPresent capability

/-- A blank capability is never there. -/
theorem isBlank_of_isPresent {probe : EnvironmentProbe}
    (present : probe.isPresent capability = true) : isBlank capability = false := by
  by_contra blank
  rw [Bool.not_eq_false] at blank
  rw [isPresent, if_pos blank] at present
  nomatch present

/-- Configured integrations are added to those of the environment, and that is all. -/
theorem integrations_added (integrations : List String) (environment : String → Option String)
    (programs : String → Bool) : Added integrations environment programs where
  union capability := by
    rw [isPresent_merged, Bool.or_eq_true, List.contains_iff_mem, List.mem_flatMap]
    constructor
    · rintro (present | ⟨list, member, inside⟩)
      · exact ⟨isBlank_of_isPresent present, .inl present⟩
      · obtain ⟨text, part⟩ := mem_entries.mp inside
        exact ⟨text, .inr ⟨list, member, part⟩⟩
    · rintro ⟨text, present | ⟨list, member, part⟩⟩
      · exact .inl present
      · exact .inr ⟨list, member, mem_entries.mpr ⟨text, part⟩⟩
  kept capability present := by
    rw [isPresent_merged, present, Bool.true_or]
  unordered others same capability := by
    have entries_same : capability ∈ others.flatMap entries ↔
        capability ∈ integrations.flatMap entries := by
      simp only [List.mem_flatMap, same]
    rw [isPresent_merged, isPresent_merged, Bool.eq_iff_iff, Bool.or_eq_true, Bool.or_eq_true,
      List.contains_iff_mem, List.contains_iff_mem, entries_same]

/-- A list that is blank in the environment is replaced, one with text goes on, and either way the
entries between stray commas count. -/
example :
    (configured [" metrics,", "", ",search "] (fun _ => some " ") fun _ => false).isPresent
        "search" ∧
      (configured ["metrics"] (fun _ => some "tracing,,") fun _ => false).isPresent "tracing" := by
  decide

end GatedStartup.EnvironmentProbe
