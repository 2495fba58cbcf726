import PortableSql.Render.Statement

/-! Pieces: everything that can be written on its own.

A piece is a node of a statement, or a part of one that a dialect may want to write in another place.
Its fragment depends on the target and, for the target of a change, on the clause it stands in; it
does not depend on what was written before.
-/

set_option autoImplicit false

namespace PortableSql

/-- What can be written on its own. -/
inductive Piece where
  | text (text : String)
  -- A note that a table is used.
  | use (table : String)
  | parameter (parameter : Parameter)
  | statement (statement : Statement)
  | expr (expr : Expr)
  | literal (value : Value)
  | column (column : ColumnRef)
  | arithmetic (left : Expr) (op : ArithmeticOp) (right : Expr)
  | standardArithmetic (left : Expr) (op : ArithmeticOp) (right : Expr)
  | application (name : String) (left right : Expr)
  | function (call : FunctionCall)
  | window (call : FunctionCall) (partitionBy : List Expr) (orderBy : List SortItem)
  | partitionItem (item : Expr)
  | standardPartitionItem (item : Expr)
  | summarization (kind : SummarizationKind) (groupings : List Expr)
  | sortItem (item : SortItem)
  | predicate (predicate : Predicate)
  | restriction (clause : Clause) (keyword : String) (predicate : Option Predicate)
  | comparison (left : Expr) (op : ComparisonOp) (right : Expr)
  | nativeComparison (left : Expr) (op : ComparisonOp) (right : Expr)
  -- A comparison without distinctness and row values.
  | emulatedComparison (left : Expr) (op : ComparisonOp) (right : Expr)
  | rowComparison (left right : List Expr) (op : ComparisonOp)
  -- The expansion of a comparison of rows, with or without leading ranges.
  | rowExpansion (left right : List Expr) (op : ComparisonOp) (ranges : Bool)
  | inArray (test array : Expr)
  | like (like : Like)
  | standardLike (like : Like)
  | loweredLike (like : Like)
  | query (query : Query) (scope : Scope)
  | selectClause (distinct : Bool) (selections : List Selection) (scope : Scope)
  | selections (selections : List Selection) (scope : Scope)
  | subquery (query : Query)
  | sources (groups : List TableGroup)
  | table (table : TableRef)
  | queryPart (query : Query) (names : List String)
  | derivedAlias (table : DerivedTable)
  | tableAlias (table : DerivedTable)
  | renamed (query : Query) (names : List String)
  | offsetFetch (query : Query)
  | limitOffset (query : Query)
  | dmlTarget (table : NamedTable)
  | standardDmlTarget (table : NamedTable)
  | returning (columns : List ColumnRef)
  | assignments (items : List Assignment)
  | setClause (items : List Assignment)
  | insertSource (source : InsertSource)
  | conflictClause (conflict : Conflict)
  | deleteClause (target : NamedTable)
  | updateClause (target : NamedTable)

open Render in
/-- The fragment of a piece in the innermost clause around it. -/
def Piece.fragment (target : Target) (clause : Option Clause) : Piece → Fragment
  | .text words => .text words
  | .use name => .mark (.table name)
  | .parameter node => .placeholder node
  | .statement node => Render.statement target node
  | .expr node => Render.expr target node
  | .literal value => value.fragment target.config
  | .column node => node.fragment
  | .arithmetic left op right =>
    Render.arithmetic target left op right (Render.expr target left) (Render.expr target right)
  | .standardArithmetic left op right =>
    Render.standardArithmetic (Render.expr target left) op (Render.expr target right)
  | .application name left right =>
    functionOf name [Render.expr target left, Render.expr target right]
  | .function call => Render.function target call
  | .window call partitionBy orderBy =>
    Render.window (Render.function target call) (partitionItems target partitionBy)
      (sortItems target orderBy)
  | .partitionItem item => Render.partitionItem target item (Render.expr target item)
  | .standardPartitionItem item => Render.standardPartitionItem item (Render.expr target item)
  | .summarization kind groupings => functionOf kind.text (exprs target groupings)
  | .sortItem item => Render.sortItem (Render.expr target item.expr) item.descending item.nulls
  | .predicate node => Render.predicate target node
  | .restriction inner keyword node => Render.restriction target inner keyword node
  | .comparison left op right =>
    Render.comparison target (operand target left) op (operand target right)
  | .nativeComparison left op right => RowValue.native (operand target left) op (operand target right)
  | .emulatedComparison left op right =>
    RowValue.emulate (Render.rowComparison target) (operand target left) op (operand target right)
  | .rowComparison left right op =>
    Render.rowComparison target (exprs target left) (exprs target right) op
  | .rowExpansion left right op ranges =>
    RowValue.expand ranges (exprs target left) (exprs target right) op
  | .inArray test array => Render.inArray target (Render.expr target test) (Render.expr target array)
  | .like node =>
    Render.like target node (Render.expr target node.expr) (Render.expr target node.pattern)
      (optional target node.escape)
  | .standardLike node =>
    Pattern.standard node.caseSensitive node.negated (Render.expr target node.expr)
      (Render.expr target node.pattern) (optional target node.escape)
  | .loweredLike node =>
    Pattern.lowered target.config node.negated (Render.expr target node.expr)
      (Render.expr target node.pattern) (optional target node.escape)
  | .query node scope => (Render.query target node).inScope scope
  | .selectClause distinct list scope =>
    Render.selectClause target distinct scope (selectionList target list)
  | .selections list scope => Render.selections scope (selectionList target list)
  | .subquery node => (Render.query target node).subquery
  | .sources groups => .separated "," (Render.groups target groups)
  | .table node => Render.table target node
  | .queryPart node names => Render.queryPart target node (Render.query target node) names
  | .derivedAlias node => Render.derivedAlias target node
  | .tableAlias node => node.aliasFragment
  | .renamed node names => (Render.query target node).renamed node names
  | .offsetFetch node =>
    Render.offsetFetch target (optional target node.offset) (optional target node.fetch)
  | .limitOffset node =>
    Spanner.limitOffset (optional target node.offset) (optional target node.fetch)
  | .dmlTarget named => Render.dmlTarget target clause named
  | .standardDmlTarget named => Render.standardDmlTarget named
  | .returning columns => Render.returning columns
  | .assignments items => Render.assignments target items
  | .setClause items => Render.setClause target items
  | .insertSource source => Render.insertSource target source
  | .conflictClause conflict => Render.conflictClause target conflict
  | .deleteClause named => Render.deleteClause target named
  | .updateClause named => Render.updateClause target named

end PortableSql
