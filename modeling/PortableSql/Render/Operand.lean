import PortableSql.Fragment
import PortableSql.Syntax.Statement

/-! Rendered operands: expressions and queries whose parts are rendered already.

A comparison looks at the form of its operands, and a dialect may take a query apart; so a rendered
expression keeps that form, and a rendered query keeps its parts next to its text. Nothing here
renders anything again: text, and what goes with it, is put together from finished fragments.
-/

set_option autoImplicit false

namespace PortableSql

/-- What a query is told by the place it stands in. -/
structure Scope where
  -- Whether its rows become the elements of an array.
  correlated : Bool := false
  -- Aliases forced on the selections, in order.
  aliases : List String := []
  deriving DecidableEq, Repr

structure QueryParts where
  distinct : Bool
  selections : List (Fragment × Option String)
  sources : List Fragment
  -- The restriction, if it restricts anything.
  restriction : Option Fragment
  groupBy : List Fragment
  -- Whether the query has a having condition, be it empty.
  hasHaving : Bool
  having : Option Fragment
  orderBy : List Fragment
  offset : Option Fragment
  fetch : Option Fragment
  lock : Option LockOptions

/-- A rendered query: its parts, and its text in any scope. -/
structure RenderedQuery where
  parts : QueryParts
  inScope : Scope → Fragment

def RenderedQuery.subquery (query : RenderedQuery) : Fragment :=
  .parens (query.inScope {})

/-- A rendered expression in the form that comparisons look at. -/
inductive Operand where
  | plain (fragment : Fragment)
  | row (items : List Fragment)
  | subquery (quantifier : Quantifier) (query : RenderedQuery)

def Operand.fragment : Operand → Fragment
  | .plain fragment => fragment
  | .row items => .parens (.separated "," items)
  | .subquery .one query => query.subquery
  | .subquery .any query => .text "any" ++ query.subquery
  | .subquery .every query => .text "all" ++ query.subquery

def Operand.selected : Operand → Fragment
  | .row items => .separated "," items
  | operand => operand.fragment

inductive RenderedSource where
  | query (query : Query) (rendered : RenderedQuery)
  | function (call : FunctionCall) (rendered : Fragment)

abbrev RowComparison := List Fragment → List Fragment → ComparisonOp → Fragment

end PortableSql
