import GatedStartup.Index.Definition
import GatedStartup.Text.Quoted

/-! Definitions and handles, described for a reader or written as JSON. -/
namespace GatedStartup.Index

def describeAnalyzers (table : Table String String) : String :=
  Text.braced (table.entries.map fun entry =>
    Text.quoted entry.1 ++ ": AnalyzerRef(" ++ Text.quoted entry.2 ++ ")")

/-- `describeRegion` shows a region reference, whose form is up to the cache it belongs to. -/
def Definition.describe (describeRegion : Region → String) (d : Definition) : String :=
  Text.record "ManagedIndexSpec"
    [("index_name", Text.quoted d.name),
      ("region_path", Text.optional (d.regionPath.map Text.quoted)),
      ("region", Text.optional (d.region.map describeRegion)),
      ("fields", Text.bracketed (d.fields.map Text.quoted)),
      ("field_analyzers", describeAnalyzers d.analyzers),
      ("destroy_on_shutdown", Text.boolean d.destroyOnShutdown)] false

def Fields.describe : Fields → String
  | .names fields => "Fields(" ++ Text.bracketed (fields.map Text.quoted) ++ ")"
  | .analyzers table => "Analyzers(" ++ describeAnalyzers table ++ ")"

def Handle.describe (h : Handle) : String :=
  Text.record "IndexHandle"
    [("name", Text.quoted h.name), ("region_path", Text.quoted h.regionPath),
      ("fields", h.fields.describe)] false

/-- One member that tells which kind of fields it is. -/
def Fields.json : Fields → Json.Value
  | .names fields => .members [("fields", .texts fields)]
  | .analyzers table =>
    .members [("analyzers", .members (table.entries.map fun entry => (entry.1, .text entry.2)))]

def Handle.json (h : Handle) : Json.Value :=
  .members [("name", .text h.name), ("regionPath", .text h.regionPath), ("fields", h.fields.json)]

end GatedStartup.Index
