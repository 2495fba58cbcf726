import PortableSql.Calendar.Text
import PortableSql.Json.Record
import PortableSql.Syntax.Statement

/-! The JSON forms of the leaves of a statement: vocabularies, values, columns and parameters.

An encoding writes every field. A reader descends on the number of brackets that may still be open,
so that it bounds the depth of what it reads; where that number does not matter it is left out.
-/

set_option autoImplicit false

namespace PortableSql

open Json

namespace Form

def comparisonOp : ComparisonOp → String
  | .eq => "Eq"
  | .ne => "Ne"
  | .lt => "Lt"
  | .lte => "Lte"
  | .gt => "Gt"
  | .gte => "Gte"
  | .distinctFrom => "DistinctFrom"
  | .notDistinctFrom => "NotDistinctFrom"

def arithmeticOp : ArithmeticOp → String
  | .add => "Add"
  | .subtract => "Subtract"
  | .multiply => "Multiply"
  | .divide => "Divide"
  | .dividePortable => "DividePortable"
  | .modulo => "Modulo"

def summarizationKind : SummarizationKind → String
  | .rollup => "Rollup"
  | .cube => "Cube"

def quantifier : Quantifier → String
  | .one => "Subquery"
  | .any => "Any"
  | .every => "Every"

def junctionKind : JunctionKind → String
  | .and => "And"
  | .or => "Or"

def joinKind : JoinKind → String
  | .inner => "Inner"
  | .left => "Left"
  | .right => "Right"
  | .full => "Full"
  | .cross => "Cross"

def nullPrecedence : NullPrecedence → String
  | .first => "First"
  | .last => "Last"

def lockMode : LockMode → String
  | .read => "Read"
  | .write => "Write"

def lockWait : LockWait → String
  | .wait => "Wait"
  | .noWait => "NoWait"
  | .skipLocked => "SkipLocked"

def followOn : FollowOn → String
  | .allow => "Allow"
  | .disallow => "Disallow"
  | .force => "Force"
  | .ignore => "Ignore"

def optionalText (text : Option String) : Json :=
  Json.ofOption .string text

def texts (texts : List String) : Json :=
  Json.ofList .string texts

/-- Read a whole value, to any depth. -/
def whole {α : Type} (read : Nat → Json → Option α) (value : Json) : Option α :=
  read value.depth value

end Form

def ComparisonOp.ofForm? : Nat → Json → Option ComparisonOp :=
  memberWithin? [.eq, .ne, .lt, .lte, .gt, .gte, .distinctFrom, .notDistinctFrom] Form.comparisonOp

def ArithmeticOp.ofForm? : Nat → Json → Option ArithmeticOp :=
  memberWithin? [.add, .subtract, .multiply, .divide, .dividePortable, .modulo] Form.arithmeticOp

def SummarizationKind.ofForm? : Nat → Json → Option SummarizationKind :=
  memberWithin? [.rollup, .cube] Form.summarizationKind

def JunctionKind.ofForm? : Nat → Json → Option JunctionKind :=
  memberWithin? [.and, .or] Form.junctionKind

def JoinKind.ofForm? : Nat → Json → Option JoinKind :=
  memberWithin? [.inner, .left, .right, .full, .cross] Form.joinKind

def NullPrecedence.ofForm? : Nat → Json → Option NullPrecedence :=
  memberWithin? [.first, .last] Form.nullPrecedence

def LockMode.ofForm? : Nat → Json → Option LockMode :=
  memberWithin? [.read, .write] Form.lockMode

def LockWait.ofForm? : Nat → Json → Option LockWait :=
  memberWithin? [.wait, .noWait, .skipLocked] Form.lockWait

def FollowOn.ofForm? : Nat → Json → Option FollowOn :=
  memberWithin? [.allow, .disallow, .force, .ignore] Form.followOn

def SqlType.ofForm? : Nat → Json → Option SqlType :=
  memberWithin? SqlType.all SqlType.name

def SqlType.ofJson? : Json → Option SqlType :=
  Form.whole ofForm?

def SqlType.toJson (type : SqlType) : Json :=
  .string type.name

def LockOptions.toJson (lock : LockOptions) : Json :=
  .object [("mode", .string (Form.lockMode lock.mode)), ("wait", .string (Form.lockWait lock.wait)),
    ("follow_on", .string (Form.followOn lock.followOn))]

def LockOptions.read : Nat → Json → Option LockOptions
  | 0, _ => none
  | depth + 1, value => do
    let record ← value.record? ["mode", "wait", "follow_on"]
    return ⟨← record.required "mode" (LockMode.ofForm? depth),
      ← record.withDefault "wait" .wait (LockWait.ofForm? depth),
      ← record.withDefault "follow_on" .allow (FollowOn.ofForm? depth)⟩

def LockOptions.ofJson? : Json → Option LockOptions :=
  Form.whole LockOptions.read

def Value.toJson : Value → Json
  | .null => .string "Null"
  | .bool value => .tagged "Bool" (.bool value)
  | .int value => .tagged "Int" (.int value.toInt)
  | .float value => .tagged "Float" (.float value)
  | .string value => .tagged "String" (.string value)
  | .date value => .tagged "Date" (.string (String.ofList value.text))
  | .timestamp value => .tagged "Timestamp" (.string (String.ofList (value.text 'T')))

def Value.read (depth : Nat) (value : Json) : Option Value :=
  match depth, value.alternative? with
  | _, some ("Null", none) | _ + 1, some ("Null", some .null) => some .null
  | _ + 1, some ("Bool", some body) => body.bool?.map .bool
  | _ + 1, some ("Int", some body) => body.int64?.map .int
  | _ + 1, some ("Float", some body) => body.number?.map .float
  | _ + 1, some ("String", some body) => body.text?.map .string
  | _ + 1, some ("Date", some body) =>
    body.text?.bind fun text => (Date.ofText? text.toList).map .date
  | _ + 1, some ("Timestamp", some body) =>
    body.text?.bind fun text => (Timestamp.ofText? text.toList).map .timestamp
  | _, _ => none

def Value.ofJson? : Json → Option Value :=
  Form.whole Value.read

def ColumnRef.toJson (column : ColumnRef) : Json :=
  .object [("qualifier", Form.optionalText column.qualifier), ("name", .string column.name),
    ("sql_type", column.sqlType.toJson)]

def ColumnRef.read : Nat → Json → Option ColumnRef
  | 0, _ => none
  | depth + 1, value => do
    let record ← value.record? ["qualifier", "name", "sql_type"]
    return ⟨← record.optional "qualifier" text?, ← record.required "name" text?,
      ← record.withDefault "sql_type" .other (SqlType.ofForm? depth)⟩

def ColumnRef.ofJson? : Json → Option ColumnRef :=
  Form.whole ColumnRef.read

def Parameter.toJson (parameter : Parameter) : Json :=
  .object [("name", Form.optionalText parameter.name), ("sql_type", parameter.sqlType.toJson)]

def Parameter.read : Nat → Json → Option Parameter
  | 0, _ => none
  | depth + 1, value => do
    let record ← value.record? ["name", "sql_type"]
    return ⟨← record.optional "name" text?,
      ← record.withDefault "sql_type" .other (SqlType.ofForm? depth)⟩

def Parameter.ofJson? : Json → Option Parameter :=
  Form.whole Parameter.read

def NamedTable.toJson (table : NamedTable) : Json :=
  .object [("table", .string table.table), ("alias", Form.optionalText table.aliasName)]

def NamedTable.read : Nat → Json → Option NamedTable
  | 0, _ => none
  | _ + 1, value => do
    let record ← value.record? ["table", "alias"]
    return ⟨← record.required "table" text?, ← record.optional "alias" text?⟩

def NamedTable.ofJson? : Json → Option NamedTable :=
  Form.whole NamedTable.read

namespace Form

def listWithin {α : Type} (read : Nat → Json → Option α) : Nat → Json → Option (List α)
  | 0, _ => none
  | depth + 1, value => value.list? (read depth)

def textsWithin : Nat → Json → Option (List String) :=
  listWithin fun _ => text?

end Form

end PortableSql
