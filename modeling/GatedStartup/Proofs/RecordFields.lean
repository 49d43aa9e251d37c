import GatedStartup.Configuration
import GatedStartup.Proofs.AlikeValues

/-! The records of a configuration document by their fields. Each field stands with the member it is
read from, the reading of it, and its default. -/
namespace GatedStartup

open Json

variable {parts : List (Literal × Value)}

namespace Attributes

def recordFields : List (RecordField Attributes) := [
  ⟨"clientAuthenticationInitializer", readString, some "", (·.clientInitializer),
    fun x a => { a with clientInitializer := x }⟩,
  ⟨"peerAuthenticationInitializer", readString, some "", (·.peerInitializer),
    fun x a => { a with peerInitializer := x }⟩,
  ⟨"securityManagerClass", ClassName.read, some .unset, (·.managerClass),
    fun x a => { a with managerClass := x }⟩,
  ⟨"securityManagerClassName", readString, some "", (·.managerClassName),
    fun x a => { a with managerClassName := x }⟩,
  ⟨"securityPostProcessorClass", ClassName.read, some .unset, (·.postProcessorClass),
    fun x a => { a with postProcessorClass := x }⟩,
  ⟨"securityPostProcessorClassName", readString, some "", (·.postProcessorClassName),
    fun x a => { a with postProcessorClassName := x }⟩,
  ⟨"shiroIniFileLocation", readString, some "", (·.shiroFile),
    fun x a => { a with shiroFile := x }⟩]

theorem consists : shape.Consists recordFields NoRest where
  members := rfl
  distinct := by decide
  puts := by simp [recordFields]
  keeps := by simp [recordFields]
  vacant := by simp [recordFields, shape, vacant]
  rest_vacant := trivial
  rest_put := by simp [NoRest]
  ext := by
    rintro ⟨⟩ ⟨⟩ - -
    simp +contextual [recordFields]

end Attributes

namespace Accounts

def recordFields : List (RecordField Accounts) := [
  ⟨"name", readString, none, (·.name), fun x a => { a with name := x }⟩,
  ⟨"users", readTable readString, some .empty, (·.users), fun x a => { a with users := x }⟩]

theorem consists : shape.Consists recordFields NoRest where
  members := by
    simp [shape, recordFields, RecordField.member, Member.needed, Member.plain, map_readTable]
  distinct := by decide
  puts := by simp [recordFields]
  keeps := by simp [recordFields]
  vacant := by simp [recordFields, shape]
  rest_vacant := trivial
  rest_put := by simp [NoRest]
  ext := by
    rintro ⟨⟩ ⟨⟩ - -
    simp +contextual [recordFields]

end Accounts

namespace Index.Definition

def recordFields : List (RecordField Definition) := [
  ⟨"indexName", readString, some "", (·.name), fun x d => { d with name := x }⟩,
  ⟨"regionPath", readOptional readString, some none, (·.regionPath),
    fun x d => { d with regionPath := x }⟩,
  ⟨"fields", readList readString, some [], (·.fields), fun x d => { d with fields := x }⟩,
  ⟨"fieldAnalyzers", readTable readString, some .empty, (·.analyzers),
    fun x d => { d with analyzers := x }⟩,
  ⟨"destroyOnShutdown", readBoolean, some false, (·.destroyOnShutdown),
    fun x d => { d with destroyOnShutdown := x }⟩]

/-- No member gives the region reference. -/
theorem consists : shape.Consists recordFields fun d => d.region = none where
  members := by simp [shape, recordFields, RecordField.member, Member.plain, map_readTable]
  distinct := by decide
  puts := by simp [recordFields]
  keeps := by simp [recordFields]
  vacant := by simp [recordFields, shape, vacant]
  rest_vacant := rfl
  rest_put := by simp [recordFields]
  ext := by
    rintro ⟨⟩ ⟨⟩ rfl rfl
    simp +contextual [recordFields]

theorem steady_recordFields : ∀ f ∈ recordFields, Steady .whole f.read := by
  simp only [recordFields, List.forall_mem_cons]
  exact ⟨steady_readString _, (steady_readString _).readOptional,
    (steady_readString _).readList .whole, (steady_readString _).readTable,
    steady_readBoolean _, List.forall_mem_nil _⟩

end Index.Definition

namespace Configuration

def recordFields : List (RecordField Configuration) := [
  ⟨"componentName", readString, some defaultComponent, (·.component),
    fun x c => { c with component := x }⟩,
  ⟨"integrations", readList readString, some [], (·.integrations),
    fun x c => { c with integrations := x }⟩,
  ⟨"security", Attributes.read, some .vacant, (·.attributes),
    fun x c => { c with attributes := x }⟩,
  ⟨"realms", readList Accounts.read, some [], (·.realms), fun x c => { c with realms := x }⟩,
  ⟨"indexes", readList Declaration.read, some [], (·.indexes),
    fun x c => { c with indexes := x }⟩]

theorem consists : shape.Consists recordFields NoRest where
  members := rfl
  distinct := by decide
  puts := by simp [recordFields]
  keeps := by simp [recordFields]
  vacant := by simp [recordFields, shape, vacant]
  rest_vacant := trivial
  rest_put := by simp [NoRest]
  ext := by
    rintro ⟨⟩ ⟨⟩ - -
    simp +contextual [recordFields]

end Configuration

end GatedStartup
