import GatedStartup.Proofs.DocumentReading
import GatedStartup.Proofs.References
import GatedStartup.Proofs.WrittenText
import GatedStartup.Property.Assembler

/-! Security attributes written and read again. There are many spellings of the same attributes, but
only one is written, and it is read as the attributes it was written from. So to read a document and
write what was read loses nothing that the first reading kept. -/
namespace GatedStartup

open Json

namespace Json

variable {ρ : Type} {parts : List (Literal × Value)} {record : ρ} {name : String}

/-- What stands for a text where a document may have a member for it. -/
inductive Verbatim : Option Value → String → Prop
  | absent : Verbatim none ""
  | text (s : String) : Verbatim (some (.text s)) s

theorem verbatim_none {s : String} : Verbatim none s ↔ s = "" := by
  constructor
  · rintro ⟨⟩
    rfl
  · rintro rfl
    exact .absent

theorem verbatim_some {v : Value} {s : String} : Verbatim (some v) s ↔ readString v = .ok s := by
  rw [readString_eq_ok]
  constructor
  · rintro ⟨⟩
    rfl
  · rintro rfl
    exact .text s

/-- A field has what stands for it among the parts. -/
theorem RecordField.given_iff {f : RecordField ρ} {stands : Option Value → f.α → Prop}
    (absent : ∀ x, stands none x ↔ f.default = some x)
    (present : ∀ v x, stands (some v) x ↔ f.read v = .ok x) :
    f.Given parts record ↔ stands (parts.lookup (some f.name)) (f.get record) := by
  rw [Given]
  cases parts.lookup (some f.name) with
  | none => exact (absent _).symm
  | some v => exact (present v _).symm

theorem given_text {get : ρ → String} {put : String → ρ → ρ} :
    RecordField.Given ⟨name, readString, some "", get, put⟩ parts record ↔
      Verbatim (parts.lookup (some name)) (get record) :=
  RecordField.given_iff (fun s => verbatim_none.trans (by simp [eq_comm]))
    fun _ _ => verbatim_some

theorem given_reference {get : ρ → ClassName} {put : ClassName → ρ → ρ} :
    RecordField.Given ⟨name, ClassName.read, some .unset, get, put⟩ parts record ↔
      ClassName.Spelled (parts.lookup (some name)) (get record) :=
  RecordField.given_iff (fun c => ClassName.spelled_none.trans (by simp [eq_comm]))
    fun _ _ => ClassName.spelled_some

end Json

namespace Attributes

variable {parts : List (Literal × Value)} {a : Attributes}

/-- Texts are taken as they are. -/
structure Spelled (parts : List (Literal × Value)) (a : Attributes) : Prop where
  client : Verbatim (parts.lookup (some "clientAuthenticationInitializer")) a.clientInitializer
  peer : Verbatim (parts.lookup (some "peerAuthenticationInitializer")) a.peerInitializer
  managerClass : ClassName.Spelled (parts.lookup (some "securityManagerClass")) a.managerClass
  managerClassName : Verbatim (parts.lookup (some "securityManagerClassName")) a.managerClassName
  postProcessorClass : ClassName.Spelled (parts.lookup (some "securityPostProcessorClass"))
    a.postProcessorClass
  postProcessorClassName : Verbatim (parts.lookup (some "securityPostProcessorClassName"))
    a.postProcessorClassName
  shiroFile : Verbatim (parts.lookup (some "shiroIniFileLocation")) a.shiroFile

theorem read_iff_spelled (allowed : scheme.Allows parts) :
    read (.object parts true) = .ok a ↔ Spelled parts a := by
  have fields : read (.object parts true) = .ok a ↔ ∀ f ∈ recordFields, f.Given parts a :=
    consists.read_iff allowed.readable allowed.distinct
  rw [fields]
  simp only [recordFields, List.forall_mem_cons, given_text, given_reference]
  constructor
  · rintro ⟨client, peer, manager, managerName, postProcessor, postProcessorName, shiro, -⟩
    exact ⟨client, peer, manager, managerName, postProcessor, postProcessorName, shiro⟩
  · rintro ⟨client, peer, manager, managerName, postProcessor, postProcessorName, shiro⟩
    exact ⟨client, peer, manager, managerName, postProcessor, postProcessorName, shiro,
      List.forall_mem_nil _⟩

/-- Only the white space around the names of the classes is lost. -/
theorem read_write (a : Attributes) : read a.write = .ok { a with
    managerClass := .ofOption a.managerClass.name?
    postProcessorClass := .ofOption a.postProcessorClass.name? } := by
  obtain ⟨-, -, manager, -, postProcessor, -, -⟩ := a
  cases manager <;> cases postProcessor <;> rfl

theorem read_write_eq_self : read a.write = .ok a ↔ a.Tidy := by
  rw [read_write]
  constructor
  · intro same
    have same := Except.ok.inj same
    exact ⟨ClassName.ofOption_name?_eq_self.mp (congrArg managerClass same),
      ClassName.ofOption_name?_eq_self.mp (congrArg postProcessorClass same)⟩
  · rintro ⟨manager, postProcessor⟩
    rw [ClassName.ofOption_name?_eq_self.mpr manager,
      ClassName.ofOption_name?_eq_self.mpr postProcessor]

theorem written_write (a : Attributes) : Written a.write := by
  have reference (c : ClassName) : Written c.write := by
    cases c with
    | unset => exact .null
    | named name => exact .text name
  refine .members ?_
  simp only [List.forall_mem_cons]
  exact ⟨.text _, .text _, reference _, .text _, reference _, .text _, .text _,
    List.forall_mem_nil _⟩

/-- A document of attributes, and the document that they are written to. -/
theorem read_pretty : (Document.ofString a.write.pretty).read read = .ok a ↔ a.Tidy := by
  rw [a.written_write.ofString_pretty, Document.read_eq_ok rfl, read_write_eq_self]

/-- Attributes that are read, or put together from any texts and any references there are. -/
inductive Obtained : Attributes → Prop
  | read {v : Value} {a : Attributes} (found : read v = .ok a) : Obtained a
  | built {a : Attributes} (manager : a.managerClass.Made)
      (postProcessor : a.postProcessorClass.Made) : Obtained a

theorem tidy_iff_made : a.Tidy ↔ a.managerClass.Made ∧ a.postProcessorClass.Made := by
  rw [ClassName.made_iff_tidy, ClassName.made_iff_tidy]
  constructor
  · rintro ⟨manager, postProcessor⟩
    exact ⟨manager, postProcessor⟩
  · rintro ⟨manager, postProcessor⟩
    exact ⟨manager, postProcessor⟩

theorem obtained_iff_tidy : a.Obtained ↔ a.Tidy := by
  constructor
  · rintro (found | ⟨manager, postProcessor⟩)
    · exact tidy_of_read found
    · exact tidy_iff_made.mpr ⟨manager, postProcessor⟩
  · intro tidy
    obtain ⟨manager, postProcessor⟩ := tidy_iff_made.mp tidy
    exact .built manager postProcessor

theorem obtained_vacant : vacant.Obtained :=
  .built (.ofOption none) (.ofOption none)

end Attributes

/-- What a document is read as is read from its value. -/
theorem Json.Document.root_of_read {α : Type} {read : Reader α} {document : Document} {x : α}
    (found : document.read read = .ok x) : read document.root = .ok x := by
  unfold Document.read at found
  split at found
  · nomatch found
  · nomatch found
  · next value =>
    split at found
    · exact value.trans found
    · nomatch found

namespace Configuration

/-- Only one member of a configuration gives its attributes. -/
theorem keeps_obtained : Shape.Keeps shape.members fun c => c.attributes.Obtained := by
  intro m member v change reads c obtained
  simp only [shape, List.mem_cons, List.not_mem_nil, or_false] at member
  rcases member with rfl | rfl | rfl | rfl | rfl
  all_goals obtain ⟨x, found, rfl⟩ := Results.map_eq_ok.mp reads
  · exact obtained
  · exact obtained
  · exact .read found
  · exact obtained
  · exact obtained

theorem obtained_ofString {text : String} {c : Configuration} (found : ofString text = .ok c) :
    c.attributes.Obtained := by
  rw [ofString, ofDocument] at found
  obtain ⟨raw, whole, rfl⟩ := Results.map_eq_ok.mp found
  have obtained := keeps_obtained.read Attributes.obtained_vacant (Document.root_of_read whole)
  rw [named]
  split <;> exact obtained

end Configuration

namespace Attributes

/-- What becomes of attributes that are written and read again. -/
structure Restored : Prop where
  /-- Whatever it is made from, a reference is unset, or has a name without white space around it. -/
  references : ∀ c : ClassName, c.Made → c = .unset ∨ ∃ name, c = .named name ∧ Text.Firm name
  /-- These are the references that are read as they were before they were written. -/
  conversions : ∀ c : ClassName, ClassName.read c.write = .ok c ↔ c.Made
  /-- However attributes come about, their references are some that can be made. -/
  made : ∀ a : Attributes, a.Obtained → a.managerClass.Made ∧ a.postProcessorClass.Made
  /-- Any document counts, on its own or as a part of a configuration. -/
  document : ∀ (document : Document) a, document.read read = .ok a → a.Obtained
  configuration : ∀ text c, Configuration.ofString text = .ok c → c.attributes.Obtained
  value : ∀ a : Attributes, a.Obtained → read a.write = .ok a
  text : ∀ a : Attributes, a.Obtained → (Document.ofString a.write.pretty).read read = .ok a
  /-- Whether security is enabled or not, nothing of the properties is lost or added. -/
  properties : ∀ a b : Attributes, a.Obtained → (Document.ofString a.write.pretty).read read = .ok b →
    ∀ enabled, b.properties enabled = a.properties enabled
  /-- To read a document, write what was read and read that, is to read the document. -/
  again : ∀ document : Document,
    ((document.read read).bind fun a => (Document.ofString a.write.pretty).read read) =
      document.read read
  againValue : ∀ v, ((read v).bind fun a => read a.write) = read v
  /-- Texts are read as they stand. A reference that is left out, null or blank is unset, and the
  white space around a name is dropped. -/
  spelled : ∀ parts a, scheme.Allows parts →
    (read (.object parts true) = .ok a ↔ Spelled parts a)

theorem written_restored : Restored where
  references c made := ClassName.tidy_iff.mp (ClassName.made_iff_tidy.mp made)
  conversions c := ClassName.read_write_eq_self
  made a obtained := tidy_iff_made.mp (obtained_iff_tidy.mp obtained)
  document document a found := .read (Document.root_of_read found)
  configuration text c found := Configuration.obtained_ofString found
  value a obtained := read_write_eq_self.mpr (obtained_iff_tidy.mp obtained)
  text a obtained := read_pretty.mpr (obtained_iff_tidy.mp obtained)
  properties a b obtained found enabled := by
    rw [read_pretty.mpr (obtained_iff_tidy.mp obtained)] at found
    rw [Except.ok.inj found]
  again document := Results.bind_eq_self fun a found =>
    read_pretty.mpr (tidy_of_read (Document.root_of_read found))
  againValue v := Results.bind_eq_self fun a found => read_write_eq_self.mpr (tidy_of_read found)
  spelled parts a allowed := read_iff_spelled allowed

/-- White space of several kinds around a name, a name of nothing else, and a text with both. -/
def spaced : String :=
  "\x7b\"securityManagerClass\": \"\\u00a0app::Manager \\n\", " ++
    "\"securityPostProcessorClass\": \" \\t\", \"shiroIniFileLocation\": \" shiro.ini \"\x7d"

/-- A reference to an array, whose items are of a type that is applied to a blank. -/
def tagged : TypeName :=
  .marked ⟨"&mut", by decide, by decide⟩ true
    (.array (.applied (.word ⟨"Tag", by decide, by decide⟩) [.character ' '])
      (.word ⟨"3", by decide, by decide⟩))

theorem spaced_restored :
    (∃ a, (Document.ofString spaced).read read = .ok a ∧
      a = { vacant with managerClass := .named "app::Manager", shiroFile := " shiro.ini " } ∧
      (Document.ofString a.write.pretty).read read = .ok a) ∧
    ∃ a, a = { vacant with
        clientInitializer := " "
        managerClass := .ofType tagged
        postProcessorClass := .ofName "\u3000app::Post" } ∧
      a.managerClass = .named "&mut [Tag<' '>; 3]" ∧
      (Document.ofString a.write.pretty).read read = .ok a := by
  have root : Document.ofString spaced = ⟨.members [
      ("securityManagerClass", .text "\u00a0app::Manager \n"),
      ("securityPostProcessorClass", .text " \t"),
      ("shiroIniFileLocation", .text " shiro.ini ")], true⟩ := by
    set_option maxRecDepth 1024 in rfl
  have found : (Document.ofString spaced).read read = .ok
      { vacant with managerClass := .named "app::Manager", shiroFile := " shiro.ini " } := by
    rw [root]
    rfl
  refine ⟨⟨_, found, rfl, ?_⟩, _, rfl, by decide, ?_⟩
  · exact written_restored.text _ (written_restored.document _ _ found)
  · exact written_restored.text _ (.built (.ofType tagged) (.ofName "\u3000app::Post"))

end Attributes
end GatedStartup
