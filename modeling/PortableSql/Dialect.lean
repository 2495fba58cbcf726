import PortableSql.Render.Operand

/-! Dialects, and what a dialect may render in its own way.

A dialect answers each construct it is offered with a fragment, or leaves it to the standard
rendering by answering nothing. The parts of a construct reach it rendered, so that an answer depends
on nothing but the parts and what is said of them.
-/

set_option autoImplicit false

namespace PortableSql

inductive Dialect where
  -- Standard syntax, everything as it stands.
  | generic
  | spanner
  deriving DecidableEq, Repr

namespace Dialect

instance : Inhabited Dialect := ⟨.spanner⟩

def name : Dialect → String
  | .generic => "generic"
  | .spanner => "spanner"

def ofName? (name : String) : Option Dialect :=
  [Dialect.generic, .spanner].find? fun dialect => dialect.name == name

def ofAnyCase? (name : String) : Option Dialect :=
  match name.toLower with
  | "generic" | "ansi" => some .generic
  | "spanner" | "googlesql" => some .spanner
  | _ => none

def config : Dialect → Config
  | .generic => .generic
  | .spanner => .spanner

theorem ofName?_name (dialect : Dialect) : ofName? dialect.name = some dialect := by
  cases dialect <;> rfl

end Dialect

/-- The constructs that a dialect renders in its own way. -/
structure Overrides where
  lockStrategy : LockOptions → Option LockStrategy := fun _ => none
  -- The paging of a query: offset and fetch.
  offsetFetch (offset fetch : Option Fragment) : Option Fragment := none
  comparison (compareRows : RowComparison) (left : Operand) (op : ComparisonOp) (right : Operand) :
    Option Fragment := none
  -- The comparison of the columns of a query with a row value.
  rowComparison (left right : List Fragment) (op : ComparisonOp) : Option Fragment := none
  partitionItem : Expr → Option Fragment := fun _ => none
  selectClause (distinct : Bool) (scope : Scope) (selections : Fragment) : Option Fragment := none
  derivedTable : DerivedTable → RenderedSource → Option Fragment := fun _ _ => none
  -- The alias of a derived table and the names of its columns.
  derivedAlias : DerivedTable → Option Fragment := fun _ => none
  -- The query of a derived table whose columns get names.
  queryPart (query : Query) (rendered : RenderedQuery) (names : List String) : Option Fragment :=
    none
  dmlTarget : Option Clause → NamedTable → Option Fragment := fun _ _ => none
  -- A deletion, from its clause and what it returns.
  delete (restriction : Option Predicate) (clause returning : Fragment) : Option Fragment := none
  update (restriction : Option Predicate) (clause assignments returning : Fragment) :
    Option Fragment := none
  insertWithConflict (insert : Insert) (conflict : Conflict) (target source returning : Fragment) :
    Option Fragment := none
  inArray (test array : Fragment) : Option Fragment := none
  like (config : Config) (like : Like) (expr pattern : Fragment) (escape : Option Fragment) :
    Option Fragment := none
  arithmetic (left : Expr) (op : ArithmeticOp) (right : Expr) (l r : Fragment) :
    Option Fragment := none

def Overrides.none : Overrides := {}

end PortableSql
