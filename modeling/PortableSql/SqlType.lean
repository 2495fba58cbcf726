/-! SQL type families: their numeric codes, their names and the column types that hold them.

A family has one name, one code and one built-in column type; `ofCode?` accepts one code more than
`code` gives, because a bit column is read as a boolean.
-/

set_option autoImplicit false

namespace PortableSql

inductive SqlType where
  | boolean
  | tinyInt
  | smallInt
  | integer
  | bigInt
  | real
  | float
  | double
  | numeric
  | decimal
  | char
  | varchar
  | longVarchar
  | binary
  | varBinary
  | date
  | time
  | timestamp
  | timestampWithTimezone
  | json
  | array
  | other
  deriving DecidableEq, Repr

namespace SqlType

instance : Inhabited SqlType := ⟨.other⟩

def all : List SqlType :=
  [.boolean, .tinyInt, .smallInt, .integer, .bigInt, .real, .float, .double, .numeric, .decimal,
   .char, .varchar, .longVarchar, .binary, .varBinary, .date, .time, .timestamp,
   .timestampWithTimezone, .json, .array, .other]

def code : SqlType → Int
  | .boolean => 16
  | .tinyInt => -6
  | .smallInt => 5
  | .integer => 4
  | .bigInt => -5
  | .real => 7
  | .float => 6
  | .double => 8
  | .numeric => 2
  | .decimal => 3
  | .char => 1
  | .varchar => 12
  | .longVarchar => -1
  | .binary => -2
  | .varBinary => -3
  | .date => 91
  | .time => 92
  | .timestamp => 93
  | .timestampWithTimezone => 2014
  | .json => 3001
  | .array => 2003
  | .other => 1111

/-- The code of a bit column, which holds a boolean. -/
def bitCode : Int := -7

def ofCode? (code : Int) : Option SqlType :=
  if code = bitCode then some .boolean else all.find? fun type => type.code == code

def name : SqlType → String
  | .boolean => "boolean"
  | .tinyInt => "tiny_int"
  | .smallInt => "small_int"
  | .integer => "integer"
  | .bigInt => "big_int"
  | .real => "real"
  | .float => "float"
  | .double => "double"
  | .numeric => "numeric"
  | .decimal => "decimal"
  | .char => "char"
  | .varchar => "varchar"
  | .longVarchar => "long_varchar"
  | .binary => "binary"
  | .varBinary => "var_binary"
  | .date => "date"
  | .time => "time"
  | .timestamp => "timestamp"
  | .timestampWithTimezone => "timestamp_with_timezone"
  | .json => "json"
  | .array => "array"
  | .other => "other"

def ofName? (name : String) : Option SqlType :=
  all.find? fun type => type.name == name

def ofAnyCase? (name : String) : Option SqlType :=
  ofName? name.toLower

def isIntegral : SqlType → Bool
  | .tinyInt | .smallInt | .integer | .bigInt => true
  | _ => false

def isNarrowInteger : SqlType → Bool
  | .tinyInt | .smallInt | .integer => true
  | _ => false

def isFloating : SqlType → Bool
  | .real | .float | .double => true
  | _ => false

def width : SqlType → Nat
  | .tinyInt => 8
  | .smallInt => 16
  | .integer => 32
  | .bigInt => 64
  | _ => 0

/-- The one of two integral types that holds the values of both. -/
def wider (left right : SqlType) : SqlType :=
  if left.width ≤ right.width then right else left

def ofArithmetic (left right : SqlType) : SqlType :=
  if left.isIntegral && right.isIntegral then left.wider right
  else if left.isFloating || right.isFloating then .double
  else .numeric

def columnType : SqlType → String
  | .boolean => "bool"
  | .tinyInt | .smallInt | .integer | .bigInt => "int64"
  | .real => "float32"
  | .float | .double => "float64"
  | .numeric | .decimal => "numeric"
  | .char | .varchar | .longVarchar | .other => "string(max)"
  | .binary | .varBinary => "bytes(max)"
  | .date => "date"
  | .time | .timestamp | .timestampWithTimezone => "timestamp"
  | .json => "json"
  | .array => "array<string(max)>"

theorem ofCode?_code (type : SqlType) : ofCode? type.code = some type := by
  cases type <;> rfl

theorem ofName?_name (type : SqlType) : ofName? type.name = some type := by
  cases type <;> rfl

end SqlType

end PortableSql
