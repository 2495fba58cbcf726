import PortableSql.Form.Leaf

/-! The JSON form of statements.

Every field is written: an absent value is null, an absent list is empty.
-/

set_option autoImplicit false

namespace PortableSql

mutual

def Expr.toJson : Expr → Json
  | .star => .string "Star"
  | .literal value => .tagged "Literal" value.toJson
  | .column column => .tagged "Column" column.toJson
  | .parameter parameter => .tagged "Parameter" parameter.toJson
  | .arithmetic left op right =>
    .tagged "Arithmetic" (.object [("left", left.toJson), ("op", .string (Form.arithmeticOp op)),
      ("right", right.toJson)])
  | .function call => .tagged "Function" call.toJson
  | .window call partitionBy orderBy =>
    .tagged "Window" (.object [("function", call.toJson),
      ("partition_by", .array (Expr.listToJson partitionBy)),
      ("order_by", .array (SortItem.listToJson orderBy))])
  | .tuple items => .tagged "Tuple" (.array (Expr.listToJson items))
  | .subquery quantifier query => .tagged (Form.quantifier quantifier) query.toJson
  | .summarization kind groupings =>
    .tagged "Summarization" (.object [("kind", .string (Form.summarizationKind kind)),
      ("groupings", .array (Expr.listToJson groupings))])

def Expr.listToJson : List Expr → List Json
  | [] => []
  | expr :: rest => expr.toJson :: Expr.listToJson rest

def FunctionCall.toJson : FunctionCall → Json
  | ⟨name, args, returnType⟩ =>
    .object [("name", .string name), ("args", .array (Expr.listToJson args)),
      ("return_type", returnType.toJson)]

def SortItem.toJson : SortItem → Json
  | ⟨expr, descending, nulls⟩ =>
    .object [("expr", expr.toJson), ("descending", .bool descending),
      ("nulls", .ofOption (fun nulls => .string (Form.nullPrecedence nulls)) nulls)]

def SortItem.listToJson : List SortItem → List Json
  | [] => []
  | item :: rest => item.toJson :: SortItem.listToJson rest

def Predicate.toJson : Predicate → Json
  | .comparison left op right =>
    .tagged "Comparison" (.object [("lhs", left.toJson), ("op", .string (Form.comparisonOp op)),
      ("rhs", right.toJson)])
  | .inList test values negated =>
    .tagged "InList" (.object [("test", test.toJson), ("values", .array (Expr.listToJson values)),
      ("negated", .bool negated)])
  | .inSubquery test query negated =>
    .tagged "InSubquery" (.object [("test", test.toJson), ("query", query.toJson),
      ("negated", .bool negated)])
  | .inArray test array =>
    .tagged "InArray" (.object [("test", test.toJson), ("array", array.toJson)])
  | .like like => .tagged "Like" like.toJson
  | .nullness expr negated =>
    .tagged "Nullness" (.object [("expr", expr.toJson), ("negated", .bool negated)])
  | .between expr low high negated =>
    .tagged "Between" (.object [("expr", expr.toJson), ("low", low.toJson), ("high", high.toJson),
      ("negated", .bool negated)])
  | .existence query negated =>
    .tagged "Exists" (.object [("query", query.toJson), ("negated", .bool negated)])
  | .junction kind parts =>
    .tagged "Junction" (.object [("kind", .string (Form.junctionKind kind)),
      ("predicates", .array (Predicate.listToJson parts))])
  | .negation inner => .tagged "Negated" inner.toJson

def Predicate.listToJson : List Predicate → List Json
  | [] => []
  | predicate :: rest => predicate.toJson :: Predicate.listToJson rest

def Predicate.optionToJson : Option Predicate → Json
  | none => .null
  | some predicate => predicate.toJson

def Expr.optionToJson : Option Expr → Json
  | none => .null
  | some expr => expr.toJson

def Like.toJson : Like → Json
  | ⟨expr, pattern, escape, caseSensitive, negated⟩ =>
    .object [("expr", expr.toJson), ("pattern", pattern.toJson),
      ("escape", Expr.optionToJson escape), ("case_sensitive", .bool caseSensitive),
      ("negated", .bool negated)]

def Selection.toJson : Selection → Json
  | ⟨expr, aliasName⟩ => .object [("expr", expr.toJson), ("alias", Form.optionalText aliasName)]

def Selection.listToJson : List Selection → List Json
  | [] => []
  | selection :: rest => selection.toJson :: Selection.listToJson rest

def Query.toJson : Query → Json
  | ⟨distinct, selections, sources, restriction, groupBy, having, orderBy, offset, fetch, lock⟩ =>
    .object [
      ("select", .object [("distinct", .bool distinct),
        ("selections", .array (Selection.listToJson selections))]),
      ("from", .array (TableGroup.listToJson sources)),
      ("restriction", Predicate.optionToJson restriction),
      ("group_by", .array (Expr.listToJson groupBy)),
      ("having", Predicate.optionToJson having),
      ("order_by", .array (SortItem.listToJson orderBy)),
      ("offset", Expr.optionToJson offset),
      ("fetch", Expr.optionToJson fetch),
      ("lock", .ofOption LockOptions.toJson lock)]

def DerivedSource.toJson : DerivedSource → Json
  | .query nested => .tagged "QueryPart" nested.toJson
  | .function call => .tagged "Function" call.toJson

def DerivedTable.toJson : DerivedTable → Json
  | ⟨source, aliasName, columnNames, lateral⟩ =>
    .object [("source", source.toJson), ("alias", .string aliasName),
      ("column_names", Form.texts columnNames), ("lateral", .bool lateral)]

def TableRef.toJson : TableRef → Json
  | .named table => .tagged "Named" table.toJson
  | .derived table => .tagged "Derived" table.toJson

def Join.toJson : Join → Json
  | ⟨kind, table, on⟩ =>
    .object [("kind", .string (Form.joinKind kind)), ("table", table.toJson),
      ("on", Predicate.optionToJson on)]

def Join.listToJson : List Join → List Json
  | [] => []
  | join :: rest => join.toJson :: Join.listToJson rest

def TableGroup.toJson : TableGroup → Json
  | ⟨primary, joins⟩ =>
    .object [("primary", primary.toJson), ("joins", .array (Join.listToJson joins))]

def TableGroup.listToJson : List TableGroup → List Json
  | [] => []
  | group :: rest => group.toJson :: TableGroup.listToJson rest

end

def Assignment.toJson (item : Assignment) : Json :=
  .object [("column", item.column.toJson), ("value", item.value.toJson)]

def ConflictAction.toJson : ConflictAction → Json
  | .doNothing => .string "DoNothing"
  | .doUpdate items => .tagged "DoUpdate" (.ofList Assignment.toJson items)

def Conflict.toJson (conflict : Conflict) : Json :=
  .object [("action", conflict.action.toJson),
    ("constraint_name", Form.optionalText conflict.constraintName),
    ("constraint_columns", Form.texts conflict.constraintColumns),
    ("predicate", Predicate.optionToJson conflict.predicate)]

def InsertSource.toJson : InsertSource → Json
  | .values rows => .tagged "Values" (.ofList (fun row => .array (Expr.listToJson row)) rows)
  | .query nested => .tagged "Query" nested.toJson

def Insert.toJson (insert : Insert) : Json :=
  .object [("target", insert.target.toJson), ("columns", Form.texts insert.columns),
    ("source", insert.source.toJson), ("conflict", .ofOption Conflict.toJson insert.conflict),
    ("returning", .ofList ColumnRef.toJson insert.returning)]

def Update.toJson (update : Update) : Json :=
  .object [("target", update.target.toJson),
    ("assignments", .ofList Assignment.toJson update.assignments),
    ("restriction", Predicate.optionToJson update.restriction),
    ("returning", .ofList ColumnRef.toJson update.returning)]

def Delete.toJson (delete : Delete) : Json :=
  .object [("target", delete.target.toJson),
    ("restriction", Predicate.optionToJson delete.restriction),
    ("returning", .ofList ColumnRef.toJson delete.returning)]

def Statement.toJson : Statement → Json
  | .select nested => .tagged "Select" nested.toJson
  | .insert nested => .tagged "Insert" nested.toJson
  | .update nested => .tagged "Update" nested.toJson
  | .delete nested => .tagged "Delete" nested.toJson

end PortableSql
