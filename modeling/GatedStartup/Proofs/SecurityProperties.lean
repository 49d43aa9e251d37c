import GatedStartup.Proofs.TidyNames
import GatedStartup.Property.Assembler

/-! The properties that security attributes come to. Behind each key stands one attribute, or a
class and the attribute that names one in its place. A key is there when these say something, and
they alone decide its value. Its place never changes. -/
namespace GatedStartup

namespace PropertySet

variable {p q : PropertySet} {key : String}

theorem eq_of_entries (same : p.entries = q.entries) : p = q := by
  cases p
  cases q
  exact (mk.injEq ..).mpr same

/-- A second writing replaces the first where that stands. -/
theorem set_set (p : PropertySet) (key first value : String) :
    (p.set key first).set key value = p.set key value := by
  apply eq_of_entries
  change setEntry key value (setEntry key first p.entries) = setEntry key value p.entries
  induction p.entries with
  | nil => simp [setEntry]
  | cons entry rest ih =>
    by_cases same : entry.1 = key
    · simp [setEntry, same]
    · simp [setEntry, same, ih]

/-- A new key comes last. -/
theorem entries_set (absent : key ∉ p.keys) (value : String) :
    (p.set key value).entries = p.entries ++ [(key, value)] := by
  obtain ⟨entries, distinct⟩ := p
  change setEntry key value entries = entries ++ [(key, value)]
  change key ∉ entries.map (·.1) at absent
  clear distinct
  induction entries with
  | nil => rfl
  | cons entry rest ih =>
    rw [List.map_cons, List.mem_cons, not_or] at absent
    rw [setEntry, if_neg (Ne.symm absent.1), ih absent.2, List.cons_append]

end PropertySet

namespace Attributes

inductive Offer where
  | plain (text : String)
  /-- A name with text is taken before the class. -/
  | either (reference : ClassName) (name : String)

namespace Offer

/-- The attribute has text, or the class is set. -/
def isGiven : Offer → Bool
  | .plain text => !Text.isBlank text
  | .either reference name => !reference.isUnset || !Text.isBlank name

/-- Attributes are taken as they are, with the white space around them. -/
def value : Offer → String
  | .plain text => text
  | .either reference name => if Text.isBlank name then reference.name?.getD "" else name

/-- Of a class and a name both are written. -/
def write (p : PropertySet) (key : String) : Offer → PropertySet
  | .plain text => p.setIfPresent key text
  | .either reference name => (p.setIfSome key reference.name?).setIfPresent key name

theorem write_eq (p : PropertySet) (key : String) (offer : Offer) :
    offer.write p key = if offer.isGiven then p.set key offer.value else p := by
  rcases offer with text | ⟨reference, name⟩
  · cases blank : Text.isBlank text <;>
      simp [write, isGiven, value, PropertySet.setIfPresent, blank]
  · cases blank : Text.isBlank name <;> rcases reference with _ | other
    all_goals simp [write, isGiven, value, PropertySet.setIfPresent, PropertySet.setIfSome, blank,
      ClassName.isUnset, ClassName.name?, PropertySet.set_set]

end Offer

/-- The keys in their order, and what there is for them. The manager has its place only when
security is enabled. -/
def offers (a : Attributes) (enabled : Bool) : List (String × Offer) :=
  [(clientKey, .plain a.clientInitializer), (peerKey, .plain a.peerInitializer)] ++
    (if enabled then [(managerKey, .either a.managerClass a.managerClassName)] else []) ++
    [(postProcessorKey, .either a.postProcessorClass a.postProcessorClassName),
      (shiroKey, .plain a.shiroFile)]

/-- The pairs that are given. -/
def given (offers : List (String × Offer)) : List (String × String) :=
  (offers.filter (·.2.isGiven)).map fun offer => (offer.1, offer.2.value)

theorem entries_written {offers : List (String × Offer)} {p : PropertySet}
    (apart : (p.keys ++ offers.map (·.1)).Nodup) :
    (offers.foldl (fun p offer => offer.2.write p offer.1) p).entries =
      p.entries ++ given offers := by
  induction offers generalizing p with
  | nil => simp [given]
  | cons offer rest ih =>
    obtain ⟨key, offer⟩ := offer
    have absent : key ∉ p.keys := by
      intro inside
      exact (List.nodup_append.mp apart).2.2 key inside key (by simp) rfl
    rw [List.foldl_cons, Offer.write_eq]
    cases isGiven : offer.isGiven with
    | false =>
      have later : (p.keys ++ rest.map (·.1)).Nodup :=
        apart.sublist (.append_left (List.sublist_cons_self ..) _)
      simpa [given, isGiven] using ih later
    | true =>
      have written := PropertySet.entries_set absent offer.value
      have later : ((p.set key offer.value).keys ++ rest.map (·.1)).Nodup := by
        simpa [PropertySet.keys, written] using apart
      simp [ih later, written, given, isGiven]

theorem entries_properties (a : Attributes) (enabled : Bool) :
    (a.properties enabled).entries = given (a.offers enabled) := by
  have apart : (PropertySet.empty.keys ++ (a.offers enabled).map (·.1)).Nodup := by
    cases enabled <;> simp [offers, PropertySet.keys, PropertySet.empty, clientKey, peerKey,
      managerKey, postProcessorKey, shiroKey]
  have written := entries_written apart
  cases enabled <;> exact written

variable {a : Attributes} {enabled : Bool}

/-- Only a name that was trimmed stands in for an attribute without text. -/
theorem Offer.isBlank_value {offer : Offer} (isGiven : offer.isGiven = true)
    (tidy : ∀ reference name, offer = .either reference name → reference.Tidy) :
    Text.isBlank offer.value = false := by
  rcases offer with text | ⟨reference, name⟩
  · simpa [Offer.isGiven, value] using isGiven
  · cases blank : Text.isBlank name with
    | false => simp [value, blank]
    | true =>
      rcases reference with _ | other
      · simp [Offer.isGiven, ClassName.isUnset, ClassName.name?, blank] at isGiven
      · have worded := (tidy _ _ rfl other rfl).1
        simpa [value, blank, ClassName.name?] using worded

theorem Tidy.of_offers (tidy : a.Tidy) {key : String} {offer : Offer}
    (member : (key, offer) ∈ a.offers enabled) (reference : ClassName) (name : String)
    (either : offer = .either reference name) : reference.Tidy := by
  subst either
  cases enabled
  all_goals simp [offers] at member
  · rw [member.2.1]
    exact tidy.postProcessor
  · rcases member with ⟨-, rfl, -⟩ | ⟨-, rfl, -⟩
    · exact tidy.manager
    · exact tidy.postProcessor

theorem offers_without_manager (a : Attributes) :
    (a.offers true).filter (·.1 != managerKey) = a.offers false := by
  rfl

/-- All that the properties are. -/
structure Mapped (a : Attributes) (enabled : Bool) : Prop where
  /-- In the order of the keys, each with the value that its attributes give. -/
  entries : (a.properties enabled).entries = given (a.offers enabled)
  worded : ∀ entry ∈ (a.properties enabled).entries, Text.isBlank entry.2 = false
  /-- Unless security is enabled, the attributes of the manager count for nothing. -/
  unmanaged : ∀ reference name,
    { a with managerClass := reference, managerClassName := name }.properties false =
      a.properties false
  erased : (a.properties true).erase managerKey = a.properties false

theorem properties_mapped (tidy : a.Tidy) (enabled : Bool) : Mapped a enabled where
  entries := entries_properties a enabled
  worded entry member := by
    rw [entries_properties, given] at member
    obtain ⟨⟨key, offer⟩, there, rfl⟩ := List.mem_map.mp member
    obtain ⟨there, isGiven⟩ := List.mem_filter.mp there
    exact Offer.isBlank_value isGiven (tidy.of_offers there)
  unmanaged reference name := rfl
  erased := by
    apply PropertySet.eq_of_entries
    change (a.properties true).entries.filter (·.1 != managerKey) = (a.properties false).entries
    rw [entries_properties, entries_properties, given, given, ← offers_without_manager,
      List.filter_map, List.filter_filter, List.filter_filter]
    simp only [Function.comp_def, Bool.and_comm]

/-- White space around every name, a manager with a class and a name, and a post-processor whose
name is blank. -/
def padded : Json.Value :=
  .members [
    ("shiroIniFileLocation", .text "\t"),
    ("securityPostProcessorClassName", .text "  "),
    ("securityPostProcessorClass", .text " app::Post\n"),
    ("securityManagerClass", .text " app::Manager "),
    ("securityManagerClassName", .text " app::Other "),
    ("clientAuthenticationInitializer", .text " app::Client ")]

theorem padded_mapped : ∃ a, read padded = .ok a ∧ a.Tidy ∧ Mapped a true ∧
    (a.properties true).entries =
      [(clientKey, " app::Client "), (managerKey, " app::Other "),
        (postProcessorKey, "app::Post")] := by
  have found : read padded = .ok
      ⟨" app::Client ", "", .named "app::Manager", " app::Other ", .named "app::Post", "  ",
        "\t"⟩ := by
    rfl
  have tidy := tidy_of_read found
  have all := properties_mapped tidy true
  refine ⟨_, found, tidy, all, ?_⟩
  rw [all.entries]
  decide

end Attributes
end GatedStartup
