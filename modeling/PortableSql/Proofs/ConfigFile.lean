import PortableSql.Config.File
import PortableSql.Proofs.FormRoundTrip
import PortableSql.Proofs.TomlDocument

/-! Configurations read back from their files.

A file names every field, and the reader finds each field as it was written, whatever its texts and maps are.
The one value without a form is that of no temporary tables: nothing is written for it, and what a file does not
name is as for Spanner, whose temporary tables are on. So a configuration without temporary tables is read back
with them (`Config.ofFileText_fileText`).
-/

set_option autoImplicit false

namespace PortableSql

open Toml Text

def textFields (map : NameMap String) : List (String × Toml) :=
  map.entries.map fun entry => (entry.1, .string entry.2)

theorem nodup_textFields (map : NameMap String) : ((textFields map).map Prod.fst).Nodup := by
  rw [textFields, List.map_map]
  apply List.pairwise_map.mpr
  apply map.ordered.imp
  intro first second less same
  have same : first.1 = second.1 := same
  rw [same] at less
  exact String.lt_irrefl _ less

theorem textMap?_textFields (map : NameMap String) : textMap? (.table (textFields map)) = some map := by
  have fields (entries : List (String × String)) :
      (entries.map fun entry => (entry.1, Toml.string entry.2)).mapM textField? = some entries := by
    induction entries with
    | nil => rfl
    | cons entry entries ih =>
      rw [List.map_cons, List.mapM_cons, ih]
      rfl
  rw [textFields, textMap?, fields, Option.map_some, NameMap.ofList_entries]

theorem document_textMap (map : NameMap String) :
    Document (((textFields map).map single).map .pair) (Config.textMapLines map) := by
  rw [textFields, List.map_map, List.map_map]
  exact .pairs fun entry _ => textValue_reads entry.2

namespace TemporaryTables

def flags (tables : TemporaryTables) : List (String × Toml) :=
  [("supports_null_constraint", .boolean tables.nullConstraints),
    ("supports_primary_key", .boolean tables.primaryKeys)]

def fields (tables : TemporaryTables) : List (String × Toml) :=
  tables.flags ++ [("column_annotations", .table (textFields tables.columnAnnotations))]

def sections (tables : TemporaryTables) : List Section :=
  [⟨.table ["temporary_table"], tables.flags.map single⟩,
    ⟨.table ["temporary_table", "column_annotations"], (textFields tables.columnAnnotations).map single⟩]

theorem document (tables : TemporaryTables) :
    Document (tables.sections.flatMap Section.lines) (Config.temporaryTableLines tables) := by
  have opening : Document _ (headerLine ["temporary_table"]) := .line (.header (by simp) (by decide))
  have inner : Document _ (headerLine ["temporary_table", "column_annotations"]) :=
    .line (.header (by simp) (by decide))
  have nulls := Document.line (.pair "supports_null_constraint" (booleanValue_reads tables.nullConstraints))
  have keys := Document.line (.pair "supports_primary_key" (booleanValue_reads tables.primaryKeys))
  have whole := (((opening.append nulls).append keys).append inner).append (document_textMap tables.columnAnnotations)
  simpa [sections, Section.lines, flags, single, Config.temporaryTableLines] using whole

theorem ofToml?_fields (tables : TemporaryTables) : ofToml? (.table tables.fields) = some tables := by
  simp [ofToml?, record?, withDefault, fields, flags, textMap?_textFields, boolean?]

end TemporaryTables

namespace Config

variable (config : Config)

/-- The fields that are no tables. -/
def plainFields : List (String × Toml) :=
  [("follow_on_locking", .boolean config.followOnLocking), ("lowercase_function", .string config.lowercaseFunction),
    ("literal_escape", .string config.literalEscape.name), ("create_table_string", .string config.createTable),
    ("null_column_string", .string config.nullMarker)]

def fields : List (String × Toml) :=
  config.plainFields ++ ("type_names", .table (textFields config.typeNames)) ::
    (config.temporaryTables.map fun tables => ("temporary_table", .table tables.fields)).toList

def sections : List Section :=
  ⟨.table ["type_names"], (textFields config.typeNames).map single⟩ ::
    (config.temporaryTables.map TemporaryTables.sections).getD []

theorem document :
    Document ((config.plainFields.map single).map .pair ++ config.sections.flatMap Section.lines)
      config.fileText.toList := by
  have locking := Document.line (.pair "follow_on_locking" (booleanValue_reads config.followOnLocking))
  have lowercase := Document.line (.pair "lowercase_function" (textValue_reads config.lowercaseFunction))
  have escape := Document.line (.pair "literal_escape" (textValue_reads config.literalEscape.name))
  have create := Document.line (.pair "create_table_string" (textValue_reads config.createTable))
  have null := Document.line (.pair "null_column_string" (textValue_reads config.nullMarker))
  have names : Document _ (headerLine ["type_names"]) := .line (.header (by simp) (by decide))
  have plain := (((((locking.append lowercase).append escape).append create).append null).append names).append
    (document_textMap config.typeNames)
  cases given : config.temporaryTables with
  | none => simpa [fileText, sections, Section.lines, plainFields, single, given] using plain
  | some tables =>
    have whole := plain.append tables.document
    simpa [fileText, sections, Section.lines, plainFields, single, given] using whole

theorem ofSections?_sections :
    ofSections? (⟨.root, config.plainFields.map single⟩ :: config.sections) = some (.table config.fields) := by
  have root : Draft.addSection [] ⟨.root, config.plainFields.map single⟩ =
      some (config.plainFields.map Draft.ofField) := Draft.addPairs_fields (by simp [plainFields])
  have fresh : Draft.find? (config.plainFields.map Draft.ofField) "type_names" = none := by
    simp [Draft.find?, plainFields, Draft.ofField]
  have names := Draft.addSection_table fresh (nodup_textFields config.typeNames)
  cases given : config.temporaryTables with
  | none =>
    simp [ofSections?, sections, given, root, names, fields, Draft.finishFields_append, Draft.finishFields_ofField,
      Draft.finishFields, Draft.finish]
  | some tables =>
    have fresh : Draft.find? (config.plainFields.map Draft.ofField ++ [("type_names", .table .declared
        ((textFields config.typeNames).map Draft.ofField))]) "temporary_table" = none := by
      simp [Draft.find?, plainFields, Draft.ofField]
    have flags := Draft.addSection_table fresh (show (tables.flags.map Prod.fst).Nodup by simp [TemporaryTables.flags])
    have apart : Draft.find? (tables.flags.map Draft.ofField) "column_annotations" = none := by
      simp [Draft.find?, TemporaryTables.flags, Draft.ofField]
    have annotations := Draft.addSection_within .declared fresh apart (nodup_textFields tables.columnAnnotations)
    simp only [ofSections?, sections, TemporaryTables.sections, given, Option.map_some, Option.getD_some,
      List.foldlM_cons, List.foldlM_nil, Option.bind_eq_bind, Option.bind_some, Option.pure_def, root, names, flags,
      annotations]
    simp [fields, given, TemporaryTables.fields, Draft.finishFields_append, Draft.finishFields_ofField,
      Draft.finishFields, Draft.finish]

theorem ofText?_fileText : Toml.ofText? config.fileText = some (.table config.fields) := by
  have unmarked : after? '\ufeff' config.fileText.toList = none := by
    obtain ⟨head, tail, split, begins⟩ := key_eq_cons "follow_on_locking"
    have other : head ≠ '\ufeff' := ne_of_beginsKey begins rfl
    simp [fileText, pairLine, split, after?, other]
  have lines := config.document.lines? (Nat.lt_succ_self _)
  rw [Toml.ofText?, unmarked, Option.getD_none, lines, Option.bind_some, sections_lines, ofSections?_sections]

theorem ofToml?_fields :
    ofToml? (.table config.fields) =
      some { config with temporaryTables := some (config.temporaryTables.getD {}) } := by
  have escape : LiteralEscape.ofToml? (.string config.literalEscape.name) = some config.literalEscape := by
    cases config.literalEscape <;> rfl
  cases given : config.temporaryTables with
  | none =>
    simp [ofToml?, record?, withDefault, fields, plainFields, given, boolean?, text?, escape, textMap?_textFields,
      spanner]
  | some tables =>
    simp [ofToml?, record?, withDefault, fields, plainFields, given, boolean?, text?, escape, textMap?_textFields,
      TemporaryTables.ofToml?_fields]

theorem ofFileText_written :
    ofFileText config.fileText = .ok { config with temporaryTables := some (config.temporaryTables.getD {}) } := by
  rw [ofFileText, ofText?_fileText, Option.bind_some, ofToml?_fields]

/-- A configuration is read back as it was, up to the temporary tables that it may do without: these are read
back as Spanner's. -/
theorem ofFileText_fileText :
    ofFileText config.fileText = .ok { config with temporaryTables := some (config.temporaryTables.getD {}) } ∧
      (ofFileText config.fileText = .ok config ↔ config.temporaryTables ≠ none) := by
  constructor
  · exact config.ofFileText_written
  · rw [ofFileText_written, Except.ok.injEq]
    constructor
    · intro same
      rw [← same]
      exact Option.some_ne_none _
    · intro given
      obtain ⟨tables, given⟩ := Option.ne_none_iff_exists'.mp given
      cases config
      cases given
      rfl

theorem ofFileText_fileText_disabled :
    ofFileText (fileText { temporaryTables := none }) ≠ .ok { temporaryTables := none } := by
  rw [ofFileText_written]
  simp

end Config

end PortableSql
