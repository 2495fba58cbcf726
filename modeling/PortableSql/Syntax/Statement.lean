import PortableSql.Syntax.Query

/-! Statements: a query, or a change to one table. -/

set_option autoImplicit false

namespace PortableSql

structure Assignment where
  column : ColumnRef
  value : Expr

inductive ConflictAction where
  | doNothing
  | doUpdate (assignments : List Assignment)

def ConflictAction.isUpdate : ConflictAction → Bool
  | .doUpdate _ => true
  | .doNothing => false

structure Conflict where
  action : ConflictAction
  constraintName : Option String := none
  constraintColumns : List String := []
  predicate : Option Predicate := none

/-- Where the rows of an insertion come from. No rows at all are one row of default values. -/
inductive InsertSource where
  | values (rows : List (List Expr))
  | query (query : Query)

structure Insert where
  target : NamedTable
  columns : List String := []
  source : InsertSource := .values []
  conflict : Option Conflict := none
  returning : List ColumnRef := []

structure Update where
  target : NamedTable
  assignments : List Assignment := []
  restriction : Option Predicate := none
  returning : List ColumnRef := []

structure Delete where
  target : NamedTable
  restriction : Option Predicate := none
  returning : List ColumnRef := []

inductive Statement where
  | select (query : Query)
  | insert (insert : Insert)
  | update (update : Update)
  | delete (delete : Delete)

def Statement.kind : Statement → String
  | .select _ => "select"
  | .insert _ => "insert"
  | .update _ => "update"
  | .delete _ => "delete"

end PortableSql
