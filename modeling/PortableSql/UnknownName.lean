import PortableSql.Dialect
import PortableSql.SqlType

/-! Names that nothing goes by, and the readers of names that answer with them. -/

set_option autoImplicit false

namespace PortableSql

inductive UnknownName where
  | sqlType (name : String)
  | dialect (name : String)
  deriving DecidableEq, Repr

/-- The name in words; that of a dialect appears in lower case. -/
def UnknownName.message : UnknownName → String
  | .sqlType name => "unknown SQL type '" ++ name ++ "'"
  | .dialect name => "unknown dialect '" ++ name.toLower ++ "'"

def SqlType.ofName (name : String) : Except UnknownName SqlType :=
  match SqlType.ofAnyCase? name with
  | some type => .ok type
  | none => .error (.sqlType name)

def Dialect.ofName (name : String) : Except UnknownName Dialect :=
  match Dialect.ofAnyCase? name with
  | some dialect => .ok dialect
  | none => .error (.dialect name)

end PortableSql
