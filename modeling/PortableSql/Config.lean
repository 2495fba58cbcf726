import PortableSql.Error
import PortableSql.NameMap

/-! The configuration of a dialect: what renderings and table definitions may rely on. -/

set_option autoImplicit false

namespace PortableSql

/-- How a quote is written inside a string literal. -/
inductive LiteralEscape where
  | standard
  -- After a backslash, as are backslashes themselves and line feeds.
  | backslash
  deriving DecidableEq, Repr

namespace LiteralEscape

def name : LiteralEscape → String
  | .standard => "standard"
  | .backslash => "backslash"

def ofName? (name : String) : Option LiteralEscape :=
  [LiteralEscape.standard, .backslash].find? fun style => style.name == name

def escape : LiteralEscape → Char → List Char
  | .standard, '\'' => ['\'', '\'']
  | .backslash, '\\' => ['\\', '\\']
  | .backslash, '\'' => ['\\', '\'']
  | .backslash, '\n' => ['\\', 'n']
  | _, c => [c]

def quote (style : LiteralEscape) (text : String) : String :=
  String.ofList ('\'' :: text.toList.flatMap style.escape ++ ['\''])

end LiteralEscape

/-- What a dialect makes of temporary tables. -/
structure TemporaryTables where
  -- Texts after the type of a column, by the name of the type.
  columnAnnotations : NameMap String := .empty
  nullConstraints : Bool := true
  primaryKeys : Bool := true

def TemporaryTables.annotation (tables : TemporaryTables) (type : SqlType) : String :=
  (tables.columnAnnotations.find? type.name).getD ""

/-- The configuration of a dialect. -/
structure Config where
  -- Whether locks are rather taken by statements that follow a query.
  followOnLocking : Bool := false
  lowercaseFunction : String := "lower"
  literalEscape : LiteralEscape := .backslash
  createTable : String := "create table"
  -- The mark of a column that may be null.
  nullMarker : String := ""
  -- Column types in place of the built-in ones, by the name of the type.
  typeNames : NameMap String := .empty
  -- What becomes of temporary tables, if there are any.
  temporaryTables : Option TemporaryTables := some {}

namespace Config

def spanner : Config := {}

def generic : Config := { literalEscape := .standard }

def quote (config : Config) (text : String) : String :=
  config.literalEscape.quote text

def typeName (config : Config) (type : SqlType) : String :=
  (config.typeNames.find? type.name).getD type.columnType

def nameType (config : Config) (type : SqlType) (name : String) : Config :=
  { config with typeNames := config.typeNames.insert type.name name }

def temporaryTables? (config : Config) : Except Error TemporaryTables :=
  match config.temporaryTables with
  | some tables => .ok tables
  | none => .error .noTemporaryTables

end Config

end PortableSql
