import PortableSql.Calendar
import PortableSql.SqlType

/-! Literal values, columns and parameters: the leaves of an expression. -/

set_option autoImplicit false

namespace PortableSql

inductive Value where
  | null
  | bool (value : Bool)
  | int (value : Int64)
  | float (value : Float)
  | string (value : String)
  | date (value : Date)
  | timestamp (value : Timestamp)

def Value.sqlType : Value → SqlType
  | .null => .other
  | .bool _ => .boolean
  | .int _ => .bigInt
  | .float _ => .double
  | .string _ => .varchar
  | .date _ => .date
  | .timestamp _ => .timestamp

structure ColumnRef where
  qualifier : Option String := none
  name : String
  sqlType : SqlType := .other
  deriving DecidableEq, Repr

structure Parameter where
  name : Option String := none
  sqlType : SqlType := .other
  deriving DecidableEq, Repr

structure NamedTable where
  table : String
  aliasName : Option String := none
  deriving DecidableEq, Repr

end PortableSql
