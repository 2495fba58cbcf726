import PortableSql.Config
import PortableSql.Dialect
import PortableSql.Form.Leaf
import PortableSql.Rendering

/-! The JSON forms of configurations and of renderings. -/

set_option autoImplicit false

namespace PortableSql

open Json

namespace Form

def textMap (map : NameMap String) : Json :=
  .object (map.entries.map fun (name, text) => (name, .string text))

def textField? (field : String × Json) : Option (String × String) :=
  field.2.text?.map (field.1, ·)

/-- The map that an object of texts is; of a name written twice the last text counts. -/
def textMap? : Json → Option (NameMap String)
  | .object fields => (fields.mapM textField?).map NameMap.ofList
  | _ => none

def literalEscape? : Json → Option LiteralEscape :=
  member? [.standard, .backslash] LiteralEscape.name

end Form

def TemporaryTables.toJson (tables : TemporaryTables) : Json :=
  .object [("column_annotations", Form.textMap tables.columnAnnotations),
    ("supports_null_constraint", .bool tables.nullConstraints),
    ("supports_primary_key", .bool tables.primaryKeys)]

def TemporaryTables.ofJson? (value : Json) : Option TemporaryTables := do
  let record ← value.record?
    ["column_annotations", "supports_null_constraint", "supports_primary_key"]
  let default : TemporaryTables := {}
  return ⟨← record.withDefault "column_annotations" default.columnAnnotations Form.textMap?,
    ← record.withDefault "supports_null_constraint" default.nullConstraints bool?,
    ← record.withDefault "supports_primary_key" default.primaryKeys bool?⟩

def Config.toJson (config : Config) : Json :=
  .object [("follow_on_locking", .bool config.followOnLocking),
    ("lowercase_function", .string config.lowercaseFunction),
    ("literal_escape", .string config.literalEscape.name),
    ("create_table_string", .string config.createTable),
    ("null_column_string", .string config.nullMarker),
    ("type_names", Form.textMap config.typeNames),
    ("temporary_table", .ofOption TemporaryTables.toJson config.temporaryTables)]

/-- The configuration that a value is the form of. What it leaves open is as for Spanner. -/
def Config.ofJson? (value : Json) : Option Config := do
  let record ← value.record? ["follow_on_locking", "lowercase_function", "literal_escape",
    "create_table_string", "null_column_string", "type_names", "temporary_table"]
  let default := Config.spanner
  return ⟨← record.withDefault "follow_on_locking" default.followOnLocking bool?,
    ← record.withDefault "lowercase_function" default.lowercaseFunction text?,
    ← record.withDefault "literal_escape" default.literalEscape Form.literalEscape?,
    ← record.withDefault "create_table_string" default.createTable text?,
    ← record.withDefault "null_column_string" default.nullMarker text?,
    ← record.withDefault "type_names" default.typeNames Form.textMap?,
    ← record.withDefault "temporary_table" default.temporaryTables
      (orNull? TemporaryTables.ofJson?)⟩

def Dialect.toJson (dialect : Dialect) : Json :=
  .string dialect.name

def Dialect.ofJson? : Json → Option Dialect :=
  member? [.generic, .spanner] Dialect.name

def Binding.toJson (binding : Binding) : Json :=
  .object [("position", .int binding.position), ("name", Form.optionalText binding.name),
    ("sql_type", binding.sqlType.toJson)]

def LockStrategy.toJson (strategy : LockStrategy) : Json :=
  .string strategy.name

def Rendering.toJson (rendering : Rendering) : Json :=
  .object [("sql", .string rendering.sql),
    ("parameters", .ofList Binding.toJson rendering.bindings),
    ("affected_tables", Form.texts rendering.tables.names),
    ("lock_strategy", rendering.lock.toJson)]

end PortableSql
