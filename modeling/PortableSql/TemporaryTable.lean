import PortableSql.Config

/-! Temporary tables, and the statements that create, clear and drop them.

A temporary table is an ordinary one that a session owns, or a share of one if a column tells the
sessions apart. What its columns say beside name and type depends on the configuration.
-/

set_option autoImplicit false

namespace PortableSql

structure QualifiedName where
  catalog : Option String := none
  schema : Option String := none
  table : String
  deriving DecidableEq, Repr

def QualifiedName.text (name : QualifiedName) : String :=
  String.intercalate "." (name.catalog.toList ++ name.schema.toList ++ [name.table])

structure TemporaryColumn where
  name : String
  sqlType : SqlType := .other
  -- The column type word for word.
  typeDefinition : Option String := none
  nullable : Bool := true
  primaryKey : Bool := false
  deriving DecidableEq, Repr

namespace TemporaryColumn

def notNull (column : TemporaryColumn) : TemporaryColumn :=
  { column with nullable := false }

/-- Make a column a part of the primary key, which is never null. -/
def asPrimaryKey (column : TemporaryColumn) : TemporaryColumn :=
  { column with primaryKey := true, nullable := false }

def typeText (config : Config) (column : TemporaryColumn) : String :=
  column.typeDefinition.getD (config.typeName column.sqlType)

end TemporaryColumn

structure TemporaryTable where
  name : QualifiedName
  columns : List TemporaryColumn := []
  -- The column that tells the sessions apart.
  sessionColumn : Option String := none
  deriving DecidableEq, Repr

def Text.occurs (part : List Char) : List Char → Bool
  | [] => part.isEmpty
  | c :: rest => part.isPrefixOf (c :: rest) || Text.occurs part rest

namespace TemporaryTable

def addColumn (table : TemporaryTable) (column : TemporaryColumn) : TemporaryTable :=
  { table with columns := table.columns ++ [column] }

/-- What a column says of null, given its type. A mark that the type carries is not repeated. -/
def nullText (config : Config) (tables : TemporaryTables) (column : TemporaryColumn) : String :=
  if !tables.nullConstraints then ""
  else if !column.nullable then " not null"
  else if Text.occurs config.nullMarker.toList (column.typeText config).toList then ""
  else config.nullMarker

def columnText (config : Config) (tables : TemporaryTables) (column : TemporaryColumn) : String :=
  let annotation := tables.annotation column.sqlType
  column.name ++ " " ++ column.typeText config
    ++ (if annotation.isEmpty then "" else " " ++ annotation)
    ++ nullText config tables column

def keyText (tables : TemporaryTables) (columns : List TemporaryColumn) : String :=
  let keys := (columns.filter (·.primaryKey)).map (·.name)
  if tables.primaryKeys && !keys.isEmpty then
    " primary key (" ++ String.intercalate ", " keys ++ ")"
  else ""

def createText (config : Config) (table : TemporaryTable) : Except Error String := do
  let tables ← config.temporaryTables?
  return config.createTable ++ " " ++ table.name.text ++ "("
    ++ String.intercalate ", " (table.columns.map (columnText config tables)) ++ ")"
    ++ keyText tables table.columns

def dropText (table : TemporaryTable) : String :=
  "drop table " ++ table.name.text

/-- The statement that clears a table, or the session's share of it. -/
def truncateText (table : TemporaryTable) : String :=
  "delete from " ++ table.name.text ++ " where " ++ match table.sessionColumn with
    | some column => column ++ "=?"
    | none => "true"

end TemporaryTable

end PortableSql
