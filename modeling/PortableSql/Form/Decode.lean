import PortableSql.Form.Encode

/-! Reading the JSON form of statements.

A field that is missing takes the value it has when nothing is said of it; a field of an unknown name
is passed over; null stands only for values that may be absent. Each reader takes the number of
brackets that may still be open.
-/

set_option autoImplicit false

namespace PortableSql

open Json

namespace Form

mutual

def expr : Nat → Json → Option Expr
  | 0, value => if value.text? = some "Star" then some .star else none
  | depth + 1, value =>
    match value.alternative? with
    | some ("Star", none) | some ("Star", some .null) => some .star
    | some ("Literal", some body) => (Value.read depth body).map .literal
    | some ("Column", some body) => (ColumnRef.read depth body).map .column
    | some ("Parameter", some body) => (Parameter.read depth body).map .parameter
    | some ("Arithmetic", some body) => arithmetic depth body
    | some ("Function", some body) => (call depth body).map .function
    | some ("Window", some body) => window depth body
    | some ("Tuple", some body) => (exprs depth body).map .tuple
    | some ("Subquery", some body) => (query depth body).map (.subquery .one)
    | some ("Any", some body) => (query depth body).map (.subquery .any)
    | some ("Every", some body) => (query depth body).map (.subquery .every)
    | some ("Summarization", some body) => summarization depth body
    | _ => none

def exprs : Nat → Json → Option (List Expr)
  | 0, _ => none
  | depth + 1, value => value.list? (expr depth)

def arithmetic : Nat → Json → Option Expr
  | 0, _ => none
  | depth + 1, value => do
    let record ← value.record? ["left", "op", "right"]
    return .arithmetic (← record.required "left" (expr depth))
      (← record.required "op" (ArithmeticOp.ofForm? depth))
      (← record.required "right" (expr depth))

def call : Nat → Json → Option FunctionCall
  | 0, _ => none
  | depth + 1, value => do
    let record ← value.record? ["name", "args", "return_type"]
    return ⟨← record.required "name" text?, ← record.withDefault "args" [] (exprs depth),
      ← record.withDefault "return_type" .other (SqlType.ofForm? depth)⟩

def window : Nat → Json → Option Expr
  | 0, _ => none
  | depth + 1, value => do
    let record ← value.record? ["function", "partition_by", "order_by"]
    return .window (← record.required "function" (call depth))
      (← record.withDefault "partition_by" [] (exprs depth))
      (← record.withDefault "order_by" [] (sortItems depth))

def summarization : Nat → Json → Option Expr
  | 0, _ => none
  | depth + 1, value => do
    let record ← value.record? ["kind", "groupings"]
    return .summarization (← record.required "kind" (SummarizationKind.ofForm? depth))
      (← record.required "groupings" (exprs depth))

def sortItem : Nat → Json → Option SortItem
  | 0, _ => none
  | depth + 1, value => do
    let record ← value.record? ["expr", "descending", "nulls"]
    return ⟨← record.required "expr" (expr depth),
      ← record.withDefault "descending" false bool?,
      ← record.optional "nulls" (NullPrecedence.ofForm? depth)⟩

def sortItems : Nat → Json → Option (List SortItem)
  | 0, _ => none
  | depth + 1, value => value.list? (sortItem depth)

def predicate : Nat → Json → Option Predicate
  | 0, _ => none
  | depth + 1, value =>
    match value.alternative? with
    | some ("Comparison", some body) => comparison depth body
    | some ("InList", some body) => inList depth body
    | some ("InSubquery", some body) => inSubquery depth body
    | some ("InArray", some body) => inArray depth body
    | some ("Like", some body) => (like depth body).map .like
    | some ("Nullness", some body) => nullness depth body
    | some ("Between", some body) => between depth body
    | some ("Exists", some body) => existence depth body
    | some ("Junction", some body) => junction depth body
    | some ("Negated", some body) => (predicate depth body).map .negation
    | _ => none

def predicates : Nat → Json → Option (List Predicate)
  | 0, _ => none
  | depth + 1, value => value.list? (predicate depth)

def comparison : Nat → Json → Option Predicate
  | 0, _ => none
  | depth + 1, value => do
    let record ← value.record? ["lhs", "op", "rhs"]
    return .comparison (← record.required "lhs" (expr depth))
      (← record.required "op" (ComparisonOp.ofForm? depth))
      (← record.required "rhs" (expr depth))

def inList : Nat → Json → Option Predicate
  | 0, _ => none
  | depth + 1, value => do
    let record ← value.record? ["test", "values", "negated"]
    return .inList (← record.required "test" (expr depth))
      (← record.required "values" (exprs depth)) (← record.withDefault "negated" false bool?)

def inSubquery : Nat → Json → Option Predicate
  | 0, _ => none
  | depth + 1, value => do
    let record ← value.record? ["test", "query", "negated"]
    return .inSubquery (← record.required "test" (expr depth))
      (← record.required "query" (query depth)) (← record.withDefault "negated" false bool?)

def inArray : Nat → Json → Option Predicate
  | 0, _ => none
  | depth + 1, value => do
    let record ← value.record? ["test", "array"]
    return .inArray (← record.required "test" (expr depth)) (← record.required "array" (expr depth))

def like : Nat → Json → Option Like
  | 0, _ => none
  | depth + 1, value => do
    let record ← value.record? ["expr", "pattern", "escape", "case_sensitive", "negated"]
    return ⟨← record.required "expr" (expr depth), ← record.required "pattern" (expr depth),
      ← record.optional "escape" (expr depth), ← record.withDefault "case_sensitive" true bool?,
      ← record.withDefault "negated" false bool?⟩

def nullness : Nat → Json → Option Predicate
  | 0, _ => none
  | depth + 1, value => do
    let record ← value.record? ["expr", "negated"]
    return .nullness (← record.required "expr" (expr depth))
      (← record.withDefault "negated" false bool?)

def between : Nat → Json → Option Predicate
  | 0, _ => none
  | depth + 1, value => do
    let record ← value.record? ["expr", "low", "high", "negated"]
    return .between (← record.required "expr" (expr depth)) (← record.required "low" (expr depth))
      (← record.required "high" (expr depth)) (← record.withDefault "negated" false bool?)

def existence : Nat → Json → Option Predicate
  | 0, _ => none
  | depth + 1, value => do
    let record ← value.record? ["query", "negated"]
    return .existence (← record.required "query" (query depth))
      (← record.withDefault "negated" false bool?)

def junction : Nat → Json → Option Predicate
  | 0, _ => none
  | depth + 1, value => do
    let record ← value.record? ["kind", "predicates"]
    return .junction (← record.required "kind" (JunctionKind.ofForm? depth))
      (← record.required "predicates" (predicates depth))

def selection : Nat → Json → Option Selection
  | 0, _ => none
  | depth + 1, value => do
    let record ← value.record? ["expr", "alias"]
    return ⟨← record.required "expr" (expr depth), ← record.optional "alias" text?⟩

def selections : Nat → Json → Option (List Selection)
  | 0, _ => none
  | depth + 1, value => value.list? (selection depth)

/-- Read the head of a query: whether it is distinct, and its selections. -/
def head : Nat → Json → Option (Bool × List Selection)
  | 0, _ => none
  | depth + 1, value => do
    let record ← value.record? ["distinct", "selections"]
    return (← record.withDefault "distinct" false bool?,
      ← record.required "selections" (selections depth))

def query : Nat → Json → Option Query
  | 0, _ => none
  | depth + 1, value => do
    let record ← value.record? ["select", "from", "restriction", "group_by", "having", "order_by",
      "offset", "fetch", "lock"]
    let (distinct, selections) ← record.required "select" (head depth)
    return {
      distinct
      selections
      sources := ← record.withDefault "from" [] (tableGroups depth)
      restriction := ← record.optional "restriction" (predicate depth)
      groupBy := ← record.withDefault "group_by" [] (exprs depth)
      having := ← record.optional "having" (predicate depth)
      orderBy := ← record.withDefault "order_by" [] (sortItems depth)
      offset := ← record.optional "offset" (expr depth)
      fetch := ← record.optional "fetch" (expr depth)
      lock := ← record.optional "lock" (LockOptions.read depth) }

def derivedSource : Nat → Json → Option DerivedSource
  | 0, _ => none
  | depth + 1, value =>
    match value.alternative? with
    | some ("QueryPart", some body) => (query depth body).map .query
    | some ("Function", some body) => (call depth body).map .function
    | _ => none

def derivedTable : Nat → Json → Option DerivedTable
  | 0, _ => none
  | depth + 1, value => do
    let record ← value.record? ["source", "alias", "column_names", "lateral"]
    return ⟨← record.required "source" (derivedSource depth), ← record.required "alias" text?,
      ← record.withDefault "column_names" [] (textsWithin depth),
      ← record.withDefault "lateral" false bool?⟩

def table : Nat → Json → Option TableRef
  | 0, _ => none
  | depth + 1, value =>
    match value.alternative? with
    | some ("Named", some body) => (NamedTable.read depth body).map .named
    | some ("Derived", some body) => (derivedTable depth body).map .derived
    | _ => none

def join : Nat → Json → Option Join
  | 0, _ => none
  | depth + 1, value => do
    let record ← value.record? ["kind", "table", "on"]
    return ⟨← record.required "kind" (JoinKind.ofForm? depth),
      ← record.required "table" (table depth),
      ← record.optional "on" (predicate depth)⟩

def joins : Nat → Json → Option (List Join)
  | 0, _ => none
  | depth + 1, value => value.list? (join depth)

def tableGroup : Nat → Json → Option TableGroup
  | 0, _ => none
  | depth + 1, value => do
    let record ← value.record? ["primary", "joins"]
    return ⟨← record.required "primary" (table depth),
      ← record.withDefault "joins" [] (joins depth)⟩

def tableGroups : Nat → Json → Option (List TableGroup)
  | 0, _ => none
  | depth + 1, value => value.list? (tableGroup depth)

end

def assignment : Nat → Json → Option Assignment
  | 0, _ => none
  | depth + 1, value => do
    let record ← value.record? ["column", "value"]
    return ⟨← record.required "column" (ColumnRef.read depth), ← record.required "value" (expr depth)⟩

def conflictAction : Nat → Json → Option ConflictAction
  | 0, value => if value.text? = some "DoNothing" then some .doNothing else none
  | depth + 1, value =>
    match value.alternative? with
    | some ("DoNothing", none) | some ("DoNothing", some .null) => some .doNothing
    | some ("DoUpdate", some body) => (listWithin assignment depth body).map .doUpdate
    | _ => none

def conflict : Nat → Json → Option Conflict
  | 0, _ => none
  | depth + 1, value => do
    let record ← value.record? ["action", "constraint_name", "constraint_columns", "predicate"]
    return ⟨← record.required "action" (conflictAction depth),
      ← record.optional "constraint_name" text?,
      ← record.withDefault "constraint_columns" [] (textsWithin depth),
      ← record.optional "predicate" (predicate depth)⟩

def insertSource : Nat → Json → Option InsertSource
  | 0, _ => none
  | depth + 1, value =>
    match value.alternative? with
    | some ("Values", some body) => (listWithin exprs depth body).map .values
    | some ("Query", some body) => (query depth body).map .query
    | _ => none

def insert : Nat → Json → Option Insert
  | 0, _ => none
  | depth + 1, value => do
    let record ← value.record? ["target", "columns", "source", "conflict", "returning"]
    return ⟨← record.required "target" (NamedTable.read depth),
      ← record.withDefault "columns" [] (textsWithin depth),
      ← record.required "source" (insertSource depth),
      ← record.optional "conflict" (conflict depth),
      ← record.withDefault "returning" [] (listWithin ColumnRef.read depth)⟩

def update : Nat → Json → Option Update
  | 0, _ => none
  | depth + 1, value => do
    let record ← value.record? ["target", "assignments", "restriction", "returning"]
    return ⟨← record.required "target" (NamedTable.read depth),
      ← record.required "assignments" (listWithin assignment depth),
      ← record.optional "restriction" (predicate depth),
      ← record.withDefault "returning" [] (listWithin ColumnRef.read depth)⟩

def delete : Nat → Json → Option Delete
  | 0, _ => none
  | depth + 1, value => do
    let record ← value.record? ["target", "restriction", "returning"]
    return ⟨← record.required "target" (NamedTable.read depth),
      ← record.optional "restriction" (predicate depth),
      ← record.withDefault "returning" [] (listWithin ColumnRef.read depth)⟩

def statement : Nat → Json → Option Statement
  | 0, _ => none
  | depth + 1, value =>
    match value.alternative? with
    | some ("Select", some body) => (query depth body).map .select
    | some ("Insert", some body) => (insert depth body).map .insert
    | some ("Update", some body) => (update depth body).map .update
    | some ("Delete", some body) => (delete depth body).map .delete
    | _ => none

end Form

def Statement.ofJson? : Json → Option Statement :=
  Form.whole Form.statement

end PortableSql
