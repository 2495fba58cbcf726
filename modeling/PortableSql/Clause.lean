/-! The clauses of a statement, by the words that name them. -/

set_option autoImplicit false

namespace PortableSql

/-- A clause that text can stand in. -/
inductive Clause where
  | select
  | sources
  | restriction
  | groupBy
  | having
  | orderBy
  | offset
  | fetch
  | forUpdate
  | insert
  | values
  | conflict
  | update
  | assignments
  | delete
  | returning
  | partition
  deriving DecidableEq, Repr

namespace Clause

def all : List Clause :=
  [.select, .sources, .restriction, .groupBy, .having, .orderBy, .offset, .fetch, .forUpdate,
   .insert, .values, .conflict, .update, .assignments, .delete, .returning, .partition]

def name : Clause → String
  | .select => "select"
  | .sources => "from"
  | .restriction => "where"
  | .groupBy => "group by"
  | .having => "having"
  | .orderBy => "order by"
  | .offset => "offset"
  | .fetch => "fetch"
  | .forUpdate => "for update"
  | .insert => "insert"
  | .values => "values"
  | .conflict => "on conflict"
  | .update => "update"
  | .assignments => "set"
  | .delete => "delete"
  | .returning => "returning"
  | .partition => "partition by"

def ofName? (name : String) : Option Clause :=
  all.find? fun clause => clause.name == name

theorem ofName?_name (clause : Clause) : ofName? clause.name = some clause := by
  cases clause <;> rfl

end Clause

end PortableSql
