import PortableSql.Syntax.Statement

/-! Building statements step by step.

Conditions accumulate: a condition joins those before it by `and`, as a further part of their junction
if they are one by `and` already.
-/

set_option autoImplicit false

namespace PortableSql

def Expr.named (name : String) : Expr :=
  .column { name }

def Expr.qualified (qualifier name : String) : Expr :=
  .column { qualifier := some qualifier, name }

def Expr.typed (name : String) (sqlType : SqlType) : Expr :=
  .column { name, sqlType }

def Expr.int (value : Int64) : Expr :=
  .literal (.int value)

def Expr.call (name : String) (args : List Expr) : Expr :=
  .function ⟨name, args, .other⟩

def Like.plain (expr pattern : Expr) : Like :=
  ⟨expr, pattern, none, true, false⟩

def Like.ignoringCase (expr pattern : Expr) : Like :=
  ⟨expr, pattern, none, false, false⟩

def Like.withEscape (like : Like) (escape : Expr) : Like :=
  { like with escape := some escape }

def Like.negate (like : Like) : Like :=
  { like with negated := !like.negated }

/-- A condition that joins those before it. -/
def Predicate.conjoin : Option Predicate → Predicate → Predicate
  | none, predicate => predicate
  | some (.junction .and parts), predicate => .junction .and (parts ++ [predicate])
  | some before, predicate => .junction .and [before, predicate]

def NamedTable.aliased (table : NamedTable) (aliasName : String) : NamedTable :=
  { table with aliasName := some aliasName }

def DerivedTable.ofQuery (query : Query) (aliasName : String) : DerivedTable :=
  ⟨.query query, aliasName, [], false⟩

def DerivedTable.ofFunction (call : FunctionCall) (aliasName : String) : DerivedTable :=
  ⟨.function call, aliasName, [], false⟩

def TableGroup.of (table : TableRef) : TableGroup :=
  ⟨table, []⟩

def TableGroup.join (group : TableGroup) (kind : JoinKind) (table : TableRef)
    (on : Option Predicate) : TableGroup :=
  { group with joins := group.joins ++ [⟨kind, table, on⟩] }

namespace Query

def fromTable (table : TableRef) : Query :=
  { empty with sources := [.of table] }

def alsoFrom (query : Query) (group : TableGroup) : Query :=
  { query with sources := query.sources ++ [group] }

/-- Join a table to the last item of the from list, if there is one. -/
def join (query : Query) (kind : JoinKind) (table : TableRef) (on : Option Predicate) : Query :=
  match query.sources.getLast? with
  | none => query
  | some last => { query with sources := query.sources.dropLast ++ [last.join kind table on] }

def column (query : Query) (expr : Expr) (aliasName : Option String) : Query :=
  { query with selections := query.selections ++ [⟨expr, aliasName⟩] }

def selectAll (query : Query) : Query :=
  query.column .star none

def filter (query : Query) (predicate : Predicate) : Query :=
  { query with restriction := some (.conjoin query.restriction predicate) }

def filterGroups (query : Query) (predicate : Predicate) : Query :=
  { query with having := some (.conjoin query.having predicate) }

def group (query : Query) (expr : Expr) : Query :=
  { query with groupBy := query.groupBy ++ [expr] }

def order (query : Query) (expr : Expr) (descending : Bool) : Query :=
  { query with orderBy := query.orderBy ++ [⟨expr, descending, none⟩] }

def limit (query : Query) (count : Int64) : Query :=
  { query with fetch := some (.int count) }

def skip (query : Query) (count : Int64) : Query :=
  { query with offset := some (.int count) }

end Query

namespace Insert

/-- Add a row of values; they take the place of a query. -/
def row (insert : Insert) (values : List Expr) : Insert :=
  { insert with source := match insert.source with
      | .values rows => .values (rows ++ [values])
      | .query _ => .values [values] }

def returns (insert : Insert) (column : ColumnRef) : Insert :=
  { insert with returning := insert.returning ++ [column] }

end Insert

namespace Update

def set (update : Update) (column : ColumnRef) (value : Expr) : Update :=
  { update with assignments := update.assignments ++ [⟨column, value⟩] }

def filter (update : Update) (predicate : Predicate) : Update :=
  { update with restriction := some (.conjoin update.restriction predicate) }

def returns (update : Update) (column : ColumnRef) : Update :=
  { update with returning := update.returning ++ [column] }

end Update

namespace Delete

def filter (delete : Delete) (predicate : Predicate) : Delete :=
  { delete with restriction := some (.conjoin delete.restriction predicate) }

def returns (delete : Delete) (column : ColumnRef) : Delete :=
  { delete with returning := delete.returning ++ [column] }

end Delete

end PortableSql
