import PortableSql.Config
import PortableSql.Toml.Printer

/-! Configuration files.

A file may leave open whatever it likes; that is then as for Spanner. What it says of other things is
passed over. Writing names everything that has a value; temporary tables that are off have none.
-/

set_option autoImplicit false

namespace PortableSql

namespace Toml

/-- The fields of a record: those of a table, or the known ones in order if it is an array. A date or
time is a record of fields that no record knows. -/
def record? (known : List String) : Toml → Option (List (String × Toml))
  | .table fields => some fields
  | .array items => some (known.zip items)
  | .moment _ => some []
  | _ => none

def withDefault {α : Type} (record : List (String × Toml)) (name : String) (default : α)
    (read : Toml → Option α) : Option α :=
  match record.find? fun field => field.1 == name with
  | some (_, value) => read value
  | none => some default

def boolean? : Toml → Option Bool
  | .boolean value => some value
  | _ => none

def text? : Toml → Option String
  | .string text => some text
  | _ => none

/-- The name that a date or time goes by where names are asked for. -/
def momentName : String := "$__toml_private_datetime"

def textField? (field : String × Toml) : Option (String × String) :=
  field.2.text?.map (field.1, ·)

def textMap? : Toml → Option (NameMap String)
  | .table fields => (fields.mapM textField?).map NameMap.ofList
  | .moment text => some (.ofList [(momentName, text)])
  | _ => none

/-- A name of a vocabulary, alone or as the only key of a table that carries nothing. -/
def name? : Toml → Option String
  | .string name | .table [(name, .table [])] | .table [(name, .array [])] => some name
  | _ => none

end Toml

open Toml

def TemporaryTables.ofToml? (value : Toml) : Option TemporaryTables := do
  let record ← record? ["column_annotations", "supports_null_constraint", "supports_primary_key"]
    value
  let default : TemporaryTables := {}
  return ⟨← withDefault record "column_annotations" default.columnAnnotations textMap?,
    ← withDefault record "supports_null_constraint" default.nullConstraints boolean?,
    ← withDefault record "supports_primary_key" default.primaryKeys boolean?⟩

def LiteralEscape.ofToml? (value : Toml) : Option LiteralEscape :=
  value.name?.bind LiteralEscape.ofName?

namespace Config

def ofToml? (value : Toml) : Option Config := do
  let record ← record? [] value
  let default := Config.spanner
  return ⟨← withDefault record "follow_on_locking" default.followOnLocking boolean?,
    ← withDefault record "lowercase_function" default.lowercaseFunction text?,
    ← withDefault record "literal_escape" default.literalEscape LiteralEscape.ofToml?,
    ← withDefault record "create_table_string" default.createTable text?,
    ← withDefault record "null_column_string" default.nullMarker text?,
    ← withDefault record "type_names" default.typeNames textMap?,
    ← withDefault record "temporary_table" default.temporaryTables fun value =>
      (TemporaryTables.ofToml? value).map some⟩

def ofFileText (text : String) : Except Error Config :=
  match (Toml.ofText? text).bind ofToml? with
  | some config => .ok config
  | none => .error .toml

def textMapLines (map : NameMap String) : List Char :=
  map.entries.flatMap fun entry => pairLine entry.1 (textValue entry.2)

def temporaryTableLines (tables : TemporaryTables) : List Char :=
  headerLine ["temporary_table"]
    ++ pairLine "supports_null_constraint" (booleanValue tables.nullConstraints)
    ++ pairLine "supports_primary_key" (booleanValue tables.primaryKeys)
    ++ headerLine ["temporary_table", "column_annotations"] ++ textMapLines tables.columnAnnotations

def fileText (config : Config) : String :=
  String.ofList (pairLine "follow_on_locking" (booleanValue config.followOnLocking)
    ++ pairLine "lowercase_function" (textValue config.lowercaseFunction)
    ++ pairLine "literal_escape" (textValue config.literalEscape.name)
    ++ pairLine "create_table_string" (textValue config.createTable)
    ++ pairLine "null_column_string" (textValue config.nullMarker)
    ++ headerLine ["type_names"] ++ textMapLines config.typeNames
    ++ match config.temporaryTables with
      | some tables => temporaryTableLines tables
      | none => [])

end Config

end PortableSql
