/-! JSON values.

A number is an integer if it is written as one and fits in 64 bits, and a floating-point number
otherwise. The fields of an object keep their order, and a name written twice is kept twice. A value
that the grammar admits but that stands for nothing, such as half of a surrogate pair or a number
beyond all finite ones, is there as `meaningless`.
-/

set_option autoImplicit false

namespace PortableSql

/-- A value, or a part of a text that looks like one. -/
inductive Json where
  | null
  | bool (value : Bool)
  | int (value : Int)
  | float (value : Float)
  | string (text : String)
  | array (items : List Json)
  | object (fields : List (String × Json))
  | meaningless

namespace Json

instance : Inhabited Json := ⟨.null⟩

mutual

def depth : Json → Nat
  | .array items => itemDepth items + 1
  | .object fields => fieldDepth fields + 1
  | _ => 0

def itemDepth : List Json → Nat
  | [] => 0
  | item :: rest => max item.depth (itemDepth rest)

def fieldDepth : List (String × Json) → Nat
  | [] => 0
  | (_, value) :: rest => max value.depth (fieldDepth rest)

end

def tagged (name : String) (value : Json) : Json :=
  .object [(name, value)]

def ofOption {α : Type} (encode : α → Json) : Option α → Json
  | some value => encode value
  | none => .null

def ofList {α : Type} (encode : α → Json) (values : List α) : Json :=
  .array (values.map encode)

def lookups (name : String) : Json → List Json
  | .object fields => fields.filterMap fun field => if field.1 = name then some field.2 else none
  | _ => []

def get? (name : String) (value : Json) : Option Json :=
  (value.lookups name).head?

end Json

end PortableSql
