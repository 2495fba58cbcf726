import PortableSql.Json

/-! Records and alternatives in JSON.

A record is an object: fields of other names are passed over, and a known name may be written once
only. A record may also be an array of its first fields in order. An alternative is its name or, with
what it carries, an object of one field.
-/

set_option autoImplicit false

namespace PortableSql.Json

variable {α : Type}

abbrev Record := List (String × Json)

def record? (known : List String) : Json → Option Record
  | .object fields =>
    let found := fields.filter fun field => known.contains field.1
    if (found.map Prod.fst).Nodup then some found else none
  | .array items => if items.length ≤ known.length then some (known.zip items) else none
  | _ => none

namespace Record

def value? (record : Record) (name : String) : Option Json :=
  (record.find? fun field => field.1 == name).map Prod.snd

def required (record : Record) (name : String) (read : Json → Option α) : Option α :=
  (record.value? name).bind read

def withDefault (record : Record) (name : String) (default : α) (read : Json → Option α) :
    Option α :=
  match record.value? name with
  | some value => read value
  | none => some default

def optional (record : Record) (name : String) (read : Json → Option α) : Option (Option α) :=
  match record.value? name with
  | some .null | none => some none
  | some value => (read value).map some

end Record

/-- The name of an alternative and what it carries. -/
def alternative? : Json → Option (String × Option Json)
  | .string name => some (name, none)
  | .object [(name, value)] => some (name, some value)
  | _ => none

/-- The name of an alternative that carries nothing, within a number of brackets. It never takes more
than one. -/
def nameWithin? : Nat → Json → Option String
  | _, .string name => some name
  | _ + 1, .object [(name, .null)] => some name
  | _, _ => none

def memberWithin? (all : List α) (nameOf : α → String) (depth : Nat) (value : Json) : Option α :=
  (value.nameWithin? depth).bind fun name => all.find? fun member => nameOf member == name

def member? (all : List α) (nameOf : α → String) (value : Json) : Option α :=
  value.memberWithin? all nameOf 1

def bool? : Json → Option Bool
  | .bool value => some value
  | _ => none

def text? : Json → Option String
  | .string text => some text
  | _ => none

def intWithin? (least greatest : Int) : Json → Option Int
  | .int n => if least ≤ n ∧ n ≤ greatest then some n else none
  | _ => none

def int64? (value : Json) : Option Int64 :=
  (value.intWithin? Int64.minValue.toInt Int64.maxValue.toInt).map Int64.ofInt

def number? : Json → Option Float
  | .float x => some x
  | .int n =>
    let size := n.natAbs.toUInt64.toFloat
    some (if n < 0 then -size else size)
  | _ => none

def list? (read : Json → Option α) : Json → Option (List α)
  | .array items => items.mapM read
  | _ => none

def orNull? (read : Json → Option α) : Json → Option (Option α)
  | .null => some none
  | value => (read value).map some

end PortableSql.Json
