import GatedStartup.Json.Reading
import GatedStartup.Table
import GatedStartup.Text.Blank

/-! What a managed index is to be: its name, the region it covers, its fields, and whether it
goes when the process does. A definition may name its region by reference or by path; the
reference wins. -/
namespace GatedStartup.Index

/-- A region of a cache, with its last path segment as name. -/
structure Region where
  name : String
  fullPath : String
deriving DecidableEq, Repr

/-- Field names in order, or an analyzer for each field. -/
inductive Fields where
  | names (fields : List String)
  | analyzers (table : Table String String)
deriving DecidableEq, Repr

def Fields.toNames : Fields → List String
  | .names fields => fields
  | .analyzers table => table.keys

/-- An index as the search service hands it out. -/
structure Handle where
  name : String
  regionPath : String
  fields : Fields
deriving DecidableEq, Repr

/-- Stands for the whole value of a region. -/
def wholeValueField : String := "__REGION_VALUE_FIELD"

structure Definition where
  name : String
  regionPath : Option String
  region : Option Region
  fields : List String
  analyzers : Table String String
  destroyOnShutdown : Bool
deriving DecidableEq, Repr

namespace Definition

def vacant : Definition := ⟨"", none, none, [], .empty, false⟩

instance : Inhabited Definition := ⟨vacant⟩

/-- The name of the definition when it has text, else that of the component. -/
def indexName? (d : Definition) (component : Option String) : Option String :=
  (Text.trimmed? d.name).or (component.bind Text.trimmed?)

/-- The configured path when it has text. -/
def configuredPath? (d : Definition) : Option String := d.regionPath.bind Text.trimmed?

/-- Analyzers win over field names; without either the whole value is covered. -/
def coverage (d : Definition) : Fields :=
  if d.analyzers.isEmpty then
    if d.fields.isEmpty then .names [wholeValueField] else .names d.fields
  else .analyzers d.analyzers

/-- The same index under whatever name: same region, fields and end. -/
def agrees (d e : Definition) : Bool :=
  d.region.map (·.fullPath) == e.region.map (·.fullPath) &&
    d.configuredPath? == e.configuredPath? &&
    d.coverage == e.coverage &&
    d.destroyOnShutdown == e.destroyOnShutdown

open Json in
/-- The region reference cannot be written in a document. -/
def shape : Shape Definition where
  title := "ManagedIndexSpec"
  members := [
    .plain "indexName" readString fun x d => { d with name := x },
    .plain "regionPath" (readOptional readString) fun x d => { d with regionPath := x },
    .plain "fields" (readList readString) fun x d => { d with fields := x },
    .plain "fieldAnalyzers" (readMap readString) fun x d => { d with analyzers := .ofList x },
    .plain "destroyOnShutdown" readBoolean fun x d => { d with destroyOnShutdown := x }]
  vacant := vacant

def read : Json.Reader Definition := shape.read

end Definition
end GatedStartup.Index
