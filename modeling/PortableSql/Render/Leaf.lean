import PortableSql.Calendar.Text
import PortableSql.Decimal.Shortest
import PortableSql.Fragment

/-! The rendering of literals, columns and names. -/

set_option autoImplicit false

namespace PortableSql

/-- A number as a literal. A number that is not finite is a text cast to the type of doubles. -/
def Value.floatText (config : Config) (x : Float) : String :=
  if Decimal.isFinite x then String.ofList (Decimal.sqlLayout.text x)
  else
    let name := if x.isNaN then "nan" else if Decimal.isNegative x then "-inf" else "inf"
    "cast('" ++ name ++ "' as " ++ config.typeName .double ++ ")"

def Value.fragment (config : Config) : Value → Fragment
  | .null => .text "null"
  | .bool value => .text (if value then "true" else "false")
  | .int value => .text (toString value.toInt)
  | .float value => .text (Value.floatText config value)
  | .string value => .literal value
  | .date value => .text ("date '" ++ String.ofList value.text ++ "'")
  | .timestamp value => .text ("timestamp '" ++ String.ofList (value.text ' ') ++ "'")

def ColumnRef.fragment (column : ColumnRef) : Fragment :=
  (Fragment.ifSome column.qualifier fun qualifier => .text qualifier ++ .text ".")
    ++ .text column.name

def Fragment.aliasText (aliasName : String) : Fragment :=
  .text " " ++ .text aliasName

def NamedTable.fragment (table : NamedTable) : Fragment :=
  .table table.table ++ .ifSome table.aliasName .aliasText

end PortableSql
