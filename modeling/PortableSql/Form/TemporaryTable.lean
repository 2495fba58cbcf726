import PortableSql.Form.Leaf
import PortableSql.TemporaryTable

/-! The JSON form of temporary tables. -/

set_option autoImplicit false

namespace PortableSql

open Json

def QualifiedName.toJson (name : QualifiedName) : Json :=
  .object [("catalog", Form.optionalText name.catalog), ("schema", Form.optionalText name.schema),
    ("table", .string name.table)]

def QualifiedName.ofJson? (value : Json) : Option QualifiedName := do
  let record ← value.record? ["catalog", "schema", "table"]
  return ⟨← record.optional "catalog" text?, ← record.optional "schema" text?,
    ← record.required "table" text?⟩

def TemporaryColumn.toJson (column : TemporaryColumn) : Json :=
  .object [("name", .string column.name), ("sql_type", column.sqlType.toJson),
    ("type_definition", Form.optionalText column.typeDefinition),
    ("nullable", .bool column.nullable), ("primary_key", .bool column.primaryKey)]

def TemporaryColumn.ofJson? (value : Json) : Option TemporaryColumn := do
  let record ← value.record? ["name", "sql_type", "type_definition", "nullable", "primary_key"]
  return ⟨← record.required "name" text?, ← record.withDefault "sql_type" .other SqlType.ofJson?,
    ← record.optional "type_definition" text?, ← record.withDefault "nullable" true bool?,
    ← record.withDefault "primary_key" false bool?⟩

def TemporaryTable.toJson (table : TemporaryTable) : Json :=
  .object [("name", table.name.toJson), ("columns", .ofList TemporaryColumn.toJson table.columns),
    ("session_uid_column", Form.optionalText table.sessionColumn)]

def TemporaryTable.ofJson? (value : Json) : Option TemporaryTable := do
  let record ← value.record? ["name", "columns", "session_uid_column"]
  return ⟨← record.required "name" QualifiedName.ofJson?,
    ← record.required "columns" (list? TemporaryColumn.ofJson?),
    ← record.optional "session_uid_column" text?⟩

end PortableSql
