import GatedStartup.Proofs.DeclarationReading

/-! What counts in a configuration document: its known members, by name. Neither their order nor any
other member makes a difference, and a member left out is its default. -/
namespace GatedStartup

open Json Index

theorem Json.Document.read_eq_ok {α : Type} {read : Reader α} {document : Document} {x : α}
    (complete : document.complete = true) :
    document.read read = .ok x ↔ read document.root = .ok x := by
  rw [Document.read]
  split
  · next excess => simp [excess]
  · next fails => simp [fails]
  · next found => simp [found, complete]

def Attributes.scheme : Scheme := .flat (recordFields.map (·.name)) none

def Accounts.scheme : Scheme := .flat (recordFields.map (·.name)) none

def Index.Definition.scheme : Scheme := .flat (recordFields.map (·.name)) none

theorem ClassName.steady_read : Steady .whole ClassName.read :=
  (steady_readString _).readOptional.map ofOption

theorem Attributes.steady : Steady scheme Attributes.read := by
  apply consists.steady_flat
  simp only [recordFields, List.forall_mem_cons]
  exact ⟨steady_readString _, steady_readString _, ClassName.steady_read, steady_readString _,
    ClassName.steady_read, steady_readString _, steady_readString _, List.forall_mem_nil _⟩

theorem Accounts.steady : Steady scheme Accounts.read := by
  apply consists.steady_flat
  simp only [recordFields, List.forall_mem_cons]
  exact ⟨steady_readString _, (steady_readString _).readTable, List.forall_mem_nil _⟩

namespace Configuration

variable {parts : List (Literal × Value)}

def scheme : Scheme := .record [
  ("componentName", .whole),
  ("integrations", .whole),
  ("security", Attributes.scheme),
  ("realms", .list Accounts.scheme),
  ("indexes", .list Declaration.scheme)] none

theorem steady : Steady scheme shape.read := by
  apply consists.steady
  · simp [recordFields, Scheme.knows]
  · simp only [recordFields, List.forall_mem_cons]
    exact ⟨steady_readString _, (steady_readString _).readList .whole, Attributes.steady,
      .readList (.list Accounts.scheme) Accounts.steady,
      .readList (.list Declaration.scheme) Declaration.steady, List.forall_mem_nil _⟩

theorem ofString_eq_ok {text : String} {c : Configuration}
    (complete : (Document.ofString text).complete = true) :
    ofString text = .ok c ↔
      ∃ raw, shape.read (Document.ofString text).root = .ok raw ∧ named raw = c := by
  rw [ofString, ofDocument, Results.map_eq_ok]
  simp only [Document.read_eq_ok complete]

theorem isBlank_named (c : Configuration) : Text.isBlank (named c).component = false := by
  rw [named]
  split
  · exact show Text.isBlank defaultComponent = false by decide
  · next text => simpa using text

/-- What a configuration document reads as. -/
structure DecidedByName : Prop where
  /-- Documents that differ only in the order of members and in members with unknown names either
  both fail, or read as the same configuration. -/
  alike : ∀ text other, (Document.ofString text).complete = true →
    (Document.ofString other).complete = true →
    Alike scheme (Document.ofString text).root (Document.ofString other).root →
    ∀ c, ofString text = .ok c ↔ ofString other = .ok c
  /-- Every field is what its member reads as, or its default. -/
  document : ∀ text parts c, Document.ofString text = ⟨.object parts true, true⟩ →
    scheme.Allows parts →
    (ofString text = .ok c ↔ ∃ raw, (∀ f ∈ recordFields, f.Given parts raw) ∧ named raw = c)
  security : ∀ parts a, Attributes.scheme.Allows parts →
    (Attributes.read (.object parts true) = .ok a ↔
      ∀ f ∈ Attributes.recordFields, f.Given parts a)
  realm : ∀ parts a, Accounts.scheme.Allows parts →
    (Accounts.read (.object parts true) = .ok a ↔
      ∀ f ∈ Accounts.recordFields, f.Given parts a)
  definition : ∀ parts d, Definition.scheme.Allows parts →
    (Definition.read (.object parts true) = .ok d ↔
      d.region = none ∧ ∀ f ∈ Definition.recordFields, f.Given parts d)
  /-- A realm needs its name; everything else may be left out. -/
  required : (∀ f ∈ recordFields, f.default.isSome) ∧
    (∀ f ∈ Attributes.recordFields, f.default.isSome) ∧
    (∀ f ∈ Accounts.recordFields, f.default.isNone ↔ f.name = "name") ∧
    (∀ f ∈ Definition.recordFields, f.default.isSome) ∧ Declaration.componentField.default.isSome
  /-- A declaration is its component and the definition that it reads as without it. -/
  index : ∀ parts d, Declaration.scheme.Allows parts →
    (Declaration.read (.object parts true) = .ok d ↔
      Declaration.componentField.Given parts d ∧
        Definition.read (.object (Declaration.others parts) true) = .ok d.definition)
  indexFails : ∀ parts, Declaration.scheme.Allows parts →
    ((∃ fault, Declaration.read (.object parts true) = .error fault) ↔
      (∃ v, (some "component", v) ∈ parts ∧ ∀ s, v ≠ .string (some s)) ∨
        ∃ fault, Definition.read (.object (Declaration.others parts) true) = .error fault)
  named : ∀ text c, ofString text = .ok c → Text.isBlank c.component = false

theorem decided_by_name : DecidedByName where
  alike text other complete complete' alike c := by
    rw [ofString_eq_ok complete, ofString_eq_ok complete']
    exact exists_congr fun raw => and_congr_left' (steady _ _ alike raw)
  document text parts c root allowed := by
    rw [ofString_eq_ok (by rw [root]), root]
    simp only [consists.read_iff allowed.readable allowed.distinct]
  security parts a allowed := Attributes.consists.read_iff allowed.readable allowed.distinct
  realm parts a allowed := Accounts.consists.read_iff allowed.readable allowed.distinct
  definition parts d allowed := Definition.consists.readObject_iff allowed.readable allowed.distinct
  required := by
    simp [recordFields, Attributes.recordFields, Accounts.recordFields, Definition.recordFields,
      Declaration.componentField]
  index parts d allowed := Declaration.read_iff allowed
  indexFails parts allowed := Declaration.read_fails_iff allowed
  named text c read := by
    rw [ofString, ofDocument] at read
    obtain ⟨raw, -, rfl⟩ := Results.map_eq_ok.mp read
    exact isBlank_named raw

/-- A realm and a declaration. -/
def sparse : String :=
  "\x7b\"realms\": [\x7b\"name\": \"r\"\x7d], " ++
    "\"indexes\": [\x7b\"component\": \"c\", \"fields\": []\x7d]\x7d"

/-- The same rearranged, with members that nothing reads. -/
def crowded : String :=
  "\x7b\"indexes\": [\x7b\"fields\": [], \"x\": [null], \"component\": \"c\"\x7d], " ++
    "\"x\": 1, \"realms\": [\x7b\"x\": true, \"name\": \"r\"\x7d]\x7d"

theorem decided_by_name_crowded :
    (∀ c, ofString sparse = .ok c ↔ ofString crowded = .ok c) ∧
      ofString crowded = .ok ⟨"cachegate", [], .vacant, [⟨"r", .empty⟩], [⟨"c", .vacant⟩]⟩ := by
  have first : Document.ofString sparse = ⟨.members [
      ("realms", .list [.members [("name", .text "r")]]),
      ("indexes", .list [.members [("component", .text "c"), ("fields", .list [])]])], true⟩ := by
    rfl
  have second : Document.ofString crowded = ⟨.members [
      ("indexes", .list [.members [("fields", .list []), ("x", .list [.null]),
        ("component", .text "c")]]),
      ("x", .number ⟨false, [1], none, none⟩),
      ("realms", .list [.members [("x", .boolean true), ("name", .text "r")]])], true⟩ := by
    set_option maxRecDepth 1024 in rfl
  have empty : Alike .whole (.list []) (.list []) := .array rfl rfl (by simp)
  have realm : Alike Accounts.scheme (.members [("name", .text "r")])
      (.members [("x", .boolean true), ("name", .text "r")]) := by
    refine .record (.of_skipped rfl (by decide) (by decide))
      (.of_skipped rfl (by decide) (by decide)) ?_
    simp only [Accounts.recordFields, List.map, List.forall_mem_cons]
    exact ⟨.some (.scalar rfl), .none, List.forall_mem_nil _⟩
  have index : Alike Declaration.scheme
      (.members [("component", .text "c"), ("fields", .list [])])
      (.members [("fields", .list []), ("x", .list [.null]), ("component", .text "c")]) := by
    refine .record ⟨by decide, by decide, ?_⟩ ⟨by decide, by decide, ?_⟩ ?_
    · rintro name v inside unknown depth ⟨⟩
      simp at inside
      obtain ⟨rfl, rfl⟩ | ⟨rfl, rfl⟩ := inside <;> rfl
    · rintro name v inside unknown depth ⟨⟩
      simp at inside
      obtain ⟨rfl, rfl⟩ | ⟨rfl, rfl⟩ | ⟨rfl, rfl⟩ := inside <;> rfl
    · simp only [Definition.recordFields, List.map, List.forall_mem_cons]
      exact ⟨.some (.scalar rfl), .none, .none, .some empty, .none, .none, List.forall_mem_nil _⟩
  have document :
      Alike scheme (Document.ofString sparse).root (Document.ofString crowded).root := by
    rw [first, second]
    refine .record (.of_skipped rfl (by decide) (by decide))
      (.of_skipped rfl (by decide) (by decide)) ?_
    simp only [List.forall_mem_cons]
    refine ⟨.none, .none, .none, .some (.array rfl rfl ?_), .some (.array rfl rfl ?_),
      List.forall_mem_nil _⟩
    · rintro (_ | i) v w ⟨⟩ ⟨⟩
      exact realm
    · rintro (_ | i) v w ⟨⟩ ⟨⟩
      exact index
  refine ⟨decided_by_name.alike _ _ (by rw [first]) (by rw [second]) document, ?_⟩
  rw [ofString, second]
  rfl

end Configuration
end GatedStartup
