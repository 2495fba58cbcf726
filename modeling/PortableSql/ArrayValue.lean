import PortableSql.Error
import PortableSql.Json.Reader
import PortableSql.Json.Record

/-! Arrays that are bound to parameters.

All integers are stored in 64 bits. An array declared with a narrower element type is widened when it
is bound and narrowed when it is read back; narrowing fails at the first element that is out of range.
Arrays of other types pass unchanged.
-/

set_option autoImplicit false

namespace PortableSql

/-- An array of one element type, of which elements may be null. -/
inductive ArrayValue where
  | bool (values : List (Option Bool))
  | tinyInt (values : List (Option Int8))
  | smallInt (values : List (Option Int16))
  | integer (values : List (Option Int32))
  | bigInt (values : List (Option Int64))
  | double (values : List (Option Float))
  | string (values : List (Option String))

namespace ArrayValue

instance : Inhabited ArrayValue := ⟨.bigInt []⟩

def elementType : ArrayValue → SqlType
  | .bool _ => .boolean
  | .tinyInt _ => .tinyInt
  | .smallInt _ => .smallInt
  | .integer _ => .integer
  | .bigInt _ => .bigInt
  | .double _ => .double
  | .string _ => .varchar

def size : ArrayValue → Nat
  | .bool values => values.length
  | .tinyInt values => values.length
  | .smallInt values => values.length
  | .integer values => values.length
  | .bigInt values => values.length
  | .double values => values.length
  | .string values => values.length

def isEmpty (array : ArrayValue) : Bool :=
  array.size == 0

def boundType (declared : SqlType) : SqlType :=
  if declared.isNarrowInteger then .bigInt else declared

/-- An array as it is bound to a parameter of a declared element type. -/
def bind (declared : SqlType) (array : ArrayValue) : ArrayValue :=
  if declared.isNarrowInteger then
    match array with
    | .tinyInt values => .bigInt (values.map (·.map Int8.toInt64))
    | .smallInt values => .bigInt (values.map (·.map Int16.toInt64))
    | .integer values => .bigInt (values.map (·.map Int32.toInt64))
    | array => array
  else array

variable {α : Type}

/-- Elements in a narrower type, counted from `index`. -/
def narrow (declared : SqlType) (least greatest : Int) (convert : Int64 → α) :
    Nat → List (Option Int64) → Except Error (List (Option α))
  | _, [] => .ok []
  | index, element :: rest => do
    let narrowed ← match element with
      | none => .ok none
      | some n =>
        if least ≤ n.toInt ∧ n.toInt ≤ greatest then .ok (some (convert n))
        else .error (.elementRange index n.toInt declared)
    return narrowed :: (← narrow declared least greatest convert (index + 1) rest)

def extract (declared : SqlType) (array : ArrayValue) : Except Error ArrayValue :=
  match array, declared with
  | .bigInt values, .tinyInt =>
    .tinyInt <$> narrow declared Int8.minValue.toInt Int8.maxValue.toInt Int64.toInt8 0 values
  | .bigInt values, .smallInt =>
    .smallInt <$> narrow declared Int16.minValue.toInt Int16.maxValue.toInt Int64.toInt16 0 values
  | .bigInt values, .integer =>
    .integer <$> narrow declared Int32.minValue.toInt Int32.maxValue.toInt Int64.toInt32 0 values
  | array, _ => .ok array

def elements? (read : Json → Option α) : Json → Option (List (Option α)) :=
  Json.list? (Json.orNull? read)

def int8? (value : Json) : Option Int8 :=
  (value.intWithin? Int8.minValue.toInt Int8.maxValue.toInt).map Int8.ofInt

def int16? (value : Json) : Option Int16 :=
  (value.intWithin? Int16.minValue.toInt Int16.maxValue.toInt).map Int16.ofInt

def int32? (value : Json) : Option Int32 :=
  (value.intWithin? Int32.minValue.toInt Int32.maxValue.toInt).map Int32.ofInt

/-- The array of an element type that a JSON array is, for the types that have arrays. -/
def ofElements? (declared : SqlType) (value : Json) : Except Error (Option ArrayValue) :=
  match declared with
  | .boolean => .ok ((elements? Json.bool? value).map .bool)
  | .tinyInt => .ok ((elements? int8? value).map .tinyInt)
  | .smallInt => .ok ((elements? int16? value).map .smallInt)
  | .integer => .ok ((elements? int32? value).map .integer)
  | .bigInt => .ok ((elements? Json.int64? value).map .bigInt)
  | .real | .float | .double => .ok ((elements? Json.number? value).map .double)
  | .char | .varchar | .longVarchar => .ok ((elements? Json.text? value).map .string)
  | type => .error (.unsupportedElement type)

def parse (declared : SqlType) (text : String) : Except Error ArrayValue := do
  match ← ofElements? declared ((Json.ofText? text).getD .meaningless) with
  | some array => return array
  | none => throw .json

def tag : ArrayValue → String
  | .bool _ => "bool"
  | .tinyInt _ => "tiny_int"
  | .smallInt _ => "small_int"
  | .integer _ => "integer"
  | .bigInt _ => "big_int"
  | .double _ => "double"
  | .string _ => "string"

def elementsJson : ArrayValue → Json
  | .bool values => .ofList (.ofOption .bool) values
  | .tinyInt values => .ofList (.ofOption fun n => .int n.toInt) values
  | .smallInt values => .ofList (.ofOption fun n => .int n.toInt) values
  | .integer values => .ofList (.ofOption fun n => .int n.toInt) values
  | .bigInt values => .ofList (.ofOption fun n => .int n.toInt) values
  | .double values => .ofList (.ofOption .float) values
  | .string values => .ofList (.ofOption .string) values

def toJson (array : ArrayValue) : Json :=
  .object [("type", .string array.tag), ("values", array.elementsJson)]

def ofJson? (value : Json) : Option ArrayValue := do
  let record ← value.record? ["type", "values"]
  let tag ← record.required "type" (Json.nameWithin? 1)
  let values ← record.value? "values"
  match tag with
  | "bool" => (elements? Json.bool? values).map .bool
  | "tiny_int" => (elements? int8? values).map .tinyInt
  | "small_int" => (elements? int16? values).map .smallInt
  | "integer" => (elements? int32? values).map .integer
  | "big_int" => (elements? Json.int64? values).map .bigInt
  | "double" => (elements? Json.number? values).map .double
  | "string" => (elements? Json.text? values).map .string
  | _ => none

end ArrayValue

end PortableSql
