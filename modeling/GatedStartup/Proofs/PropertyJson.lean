import GatedStartup.CommandLine.Run
import GatedStartup.Proofs.OrderedTables
import GatedStartup.Proofs.PropertyAgreement
import GatedStartup.Proofs.WrittenText

/-! Property sets as JSON. The text tells the set: it is read back as the pairs of the set in the
order of their keys, so sets that agree have one text, and others have different ones. -/
namespace GatedStartup.PropertySet

open Json

variable {p q : PropertySet}

theorem ordered_table (p : PropertySet) : p.table.Ordered :=
  Table.ordered_ofList p.entries

theorem get?_table (p : PropertySet) (key : String) : p.table.get? key = p.get? key :=
  Table.get?_ofList p.distinct key

/-- Only the order of the pairs is lost. -/
theorem table_eq_iff : p.table = q.table ↔ p.agrees q = true := by
  rw [agrees_iff]
  constructor
  · intro same key
    rw [← get?_table, same, get?_table]
  · intro same
    apply p.ordered_table.eq_of_get? q.ordered_table
    intro key
    rw [get?_table, get?_table, same]

theorem entries_table_perm (p : PropertySet) : p.table.entries.Perm p.entries := by
  rw [List.perm_ext_iff_of_nodup p.ordered_table.nodup_entries p.distinct.of_map]
  rintro ⟨key, value⟩
  rw [Table.mem_entries_iff p.ordered_table, get?_table, mem_entries]

theorem written_json (p : PropertySet) : Json.Written p.json := by
  refine .members fun part member => ?_
  obtain ⟨entry, -, rfl⟩ := List.mem_map.mp member
  exact .text entry.2

theorem readPairs_texts (pairs : List (String × String)) :
    readPairs readString (pairs.map fun pair => (some pair.1, .text pair.2)) = .ok pairs := by
  induction pairs with
  | nil => rfl
  | cons pair rest ih =>
    rw [List.map_cons, readPairs, ih]
    rfl

theorem read_jsonText (p : PropertySet) :
    (Document.ofString p.jsonText).read (readMap readString) = .ok p.table.entries := by
  have texts := readPairs_texts p.table.entries
  have found : readMap readString p.json = .ok p.table.entries := by
    simp only [json, Value.members, List.map_map, Function.comp_def, readMap, texts]
    rfl
  rw [jsonText, p.written_json.ofString_pretty, Document.read, found]
  rfl

/-- What the text of a set tells. -/
structure Told (p : PropertySet) : Prop where
  /-- The same text is shown for sets that agree, and for no others. -/
  identified : ∀ q, CommandLine.showProperties .json p = CommandLine.showProperties .json q ↔
    p.agrees q = true
  /-- Read as an object of texts, it gives the pairs of the set by key. -/
  pairs : ∃ pairs,
    (Document.ofString (CommandLine.showProperties .json p)).read (readMap readString) = .ok pairs ∧
      pairs.Perm p.entries ∧ pairs.Pairwise fun a b => a.1 < b.1

theorem jsonText_tells (p : PropertySet) : Told p where
  identified q := by
    rw [← table_eq_iff]
    constructor
    · intro same
      have reads := p.read_jsonText
      rw [show p.jsonText = q.jsonText from same, q.read_jsonText] at reads
      have entries := Except.ok.inj reads
      cases table : p.table
      cases table' : q.table
      rw [table, table'] at entries
      exact congrArg Table.mk entries.symm
    · intro same
      change p.jsonText = q.jsonText
      rw [jsonText, jsonText, json, json, same]
  pairs := by
    refine ⟨p.table.entries, p.read_jsonText, p.entries_table_perm, ?_⟩
    exact p.ordered_table.imp compareOfLessAndEq_eq_lt.mp

/-- A key that looks like the layout, and a value of nothing but escapes. -/
example : (ofList [("b\": \"c\",\n", "\\\"\n"), ("a", "")]).jsonText =
    "\x7b\n  \"a\": \"\",\n  \"b\\\": \\\"c\\\",\\n\": \"\\\\\\\"\\n\"\n\x7d\n" := by
  decide

end GatedStartup.PropertySet
