import PortableSql.Session
import PortableSql.Writer.Tree

/-! Statements and pieces as actions, and calls that go on with one writer.

A call takes the action of a piece, or opens a clause for calls of its own and closes it whatever comes of
them. The calls after a failed one go on with what it left, save in a clause, where the first failure ends
the clause.
-/

set_option autoImplicit false

namespace PortableSql.Write

variable (target : Target)

def standardDmlTarget (table : NamedTable) : Action :=
  tableName table.table

def dmlTarget (table : NamedTable) : Action :=
  offer (target.hooks.dmlTarget table) (standardDmlTarget table)

def returning (columns : List ColumnRef) : Action :=
  onlyIf (!columns.isEmpty) <| inClause .returning do
    append " returning "
    separated "," (columns.map column)

def assignment (item : Assignment) : Action := do
  append item.column.name
  append "="
  expr target item.value

def assignments (items : List Assignment) : Action :=
  separated "," (items.map (assignment target))

def setClause (items : List Assignment) : Action :=
  inClause .assignments do
    append " set "
    assignments target items

def restricted (clause : Clause) (keyword : String) (predicate : Option Predicate) : Action :=
  restriction clause keyword (condition target predicate)

def deleteClause (table : NamedTable) : Action :=
  inClause .delete do
    append "delete from "
    dmlTarget target table

def delete (statement : Delete) : Action :=
  let clause := deleteClause target statement.target
  offer (target.hooks.delete statement.restriction clause (returning statement.returning)) do
    clause
    restricted target .restriction " where " statement.restriction
    returning statement.returning

def updateClause (table : NamedTable) : Action :=
  inClause .update do
    append "update "
    dmlTarget target table

def update (statement : Update) : Action :=
  let clause := updateClause target statement.target
  let items := setClause target statement.assignments
  offer (target.hooks.update statement.restriction clause items (returning statement.returning)) do
    clause
    items
    restricted target .restriction " where " statement.restriction
    returning statement.returning

/-- The rows of an insertion: a list of rows, default values, or the rows of a query. -/
def insertSource : InsertSource → Action
  | .values rows =>
    if rows.isEmpty then append "default values"
    else inClause .values do
      append "values "
      separated "," (rows.map fun row => parens (separated "," (exprs target row)))
  | .query nested => (query target nested).inScope {}

def constraint (name : Option String) (columns : List String) : Action :=
  match name with
  | some name => do
    append " on constraint "
    append name
  | none => onlyIf (!columns.isEmpty) do
    append " "
    parens (names columns)

def conflictAction (conflict : Conflict) : Action :=
  match conflict.action with
  | .doNothing => append " do nothing"
  | .doUpdate items => do
    append " do update set "
    assignments target items
    restricted target .restriction " where " conflict.predicate

def conflictClause (conflict : Conflict) : Action :=
  inClause .conflict do
    append " on conflict"
    constraint conflict.constraintName conflict.constraintColumns
    conflictAction target conflict

def standardInsert (statement : Insert) : Action := do
  inClause .insert do
    append "insert into "
    dmlTarget target statement.target
    onlyIf (!statement.columns.isEmpty) do
      append " "
      parens (names statement.columns)
  append " "
  insertSource target statement.source
  ifSome statement.conflict (conflictClause target)
  returning statement.returning

def insert (statement : Insert) : Action :=
  match statement.conflict with
  | none => standardInsert target statement
  | some conflict =>
    offer (target.hooks.insertWithConflict statement conflict (dmlTarget target statement.target)
      (insertSource target statement.source) (returning statement.returning)) (standardInsert target statement)

def statement : Statement → Action
  | .select nested => (query target nested).inScope {}
  | .insert nested => insert target nested
  | .update nested => update target nested
  | .delete nested => delete target nested

def piece : Piece → Action
  | .text words => append words
  | .use name => register name
  | .parameter node => addParameter node
  | .statement node => statement target node
  | .expr node => expr target node
  | .literal value => literal target.config value
  | .column node => column node
  | .arithmetic left op right => arithmetic target left op right (expr target left) (expr target right)
  | .standardArithmetic left op right => standardArithmetic (expr target left) op (expr target right)
  | .application name left right => functionOf name [expr target left, expr target right]
  | .function call => function target call
  | .window call partitionBy orderBy =>
    window (function target call) (partitionItems target partitionBy) (sortItems target orderBy)
  | .partitionItem item => partitionItem target item (expr target item)
  | .standardPartitionItem item => standardPartitionItem item (expr target item)
  | .summarization kind groupings => functionOf kind.text (exprs target groupings)
  | .sortItem item => sortItem (expr target item.expr) item.descending item.nulls
  | .predicate node => predicate target node
  | .restriction inner keyword node => restricted target inner keyword node
  | .comparison left op right => comparison target (operand target left) op (operand target right)
  | .nativeComparison left op right => native (operand target left) op (operand target right)
  | .emulatedComparison left op right =>
    emulate (rowComparison target) (operand target left) op (operand target right)
  | .rowComparison left right op => rowComparison target (exprs target left) (exprs target right) op
  | .rowExpansion left right op ranges => expand ranges (exprs target left) (exprs target right) op
  | .inArray test array => inArray target (expr target test) (expr target array)
  | .like node =>
    like target node (expr target node.expr) (expr target node.pattern) (optional target node.escape)
  | .standardLike node =>
    standardMatch node.caseSensitive node.negated (expr target node.expr) (expr target node.pattern)
      (optional target node.escape)
  | .loweredLike node =>
    loweredMatch target.config node.negated (expr target node.expr) (expr target node.pattern)
      (optional target node.escape)
  | .query node scope => (query target node).inScope scope
  | .selectClause distinct list scope => selectClause target distinct scope (selectionList target list)
  | .selections list scope => selections scope (selectionList target list)
  | .subquery node => (query target node).subquery
  | .sources list => separated "," (groups target list)
  | .table node => table target node
  | .queryPart node names => queryPart target node (query target node) names
  | .derivedAlias node => derivedAlias target node
  | .tableAlias node => aliasText node.aliasName
  | .renamed node names => renamed node (query target node) names
  | .offsetFetch node => offsetFetch target (optional target node.offset) (optional target node.fetch)
  | .limitOffset node => Spanner.limitOffset (optional target node.offset) (optional target node.fetch)
  | .dmlTarget named => dmlTarget target named
  | .standardDmlTarget named => standardDmlTarget named
  | .returning columns => returning columns
  | .assignments items => assignments target items
  | .setClause items => setClause target items
  | .insertSource source => insertSource target source
  | .conflictClause conflict => conflictClause target conflict
  | .deleteClause named => deleteClause target named
  | .updateClause named => updateClause target named

end PortableSql.Write

namespace PortableSql

/-- A statement written by an empty writer. -/
def Statement.write (statement : Statement) (target : Target) : Except Error Rendering :=
  match Write.statement target statement ({} : Writer) with
  | (.ok (), writer) => .ok writer.finish
  | (.error cause, _) => .error cause

namespace Writer

def failure {α : Type} : Except Error α → Option Error
  | .ok _ => none
  | .error cause => some cause

variable (target : Target)

mutual

def call (writer : Writer) : SessionStep → Writer × StepReport
  | .piece node =>
    let (result, after) := Write.piece target node writer
    (after, ⟨writer.addedText after, after.clause?, failure result, none⟩)
  | .inClause clause steps =>
    let (last, reports, failed) := callToFailure (writer.enter clause) steps
    let after := last.leave
    (after, ⟨writer.addedText after, after.clause?, failed, some reports⟩)
  | .refused cause => (writer, ⟨"", writer.clause?, some cause, none⟩)

/-- Make calls up to the first that fails. -/
def callToFailure (writer : Writer) : List SessionStep → Writer × List StepReport × Option Error
  | [] => (writer, [], none)
  | step :: rest =>
    let (after, report) := call writer step
    match report.failure with
    | some cause => (after, [report], some cause)
    | none =>
      let (last, reports, failed) := callToFailure after rest
      (last, report :: reports, failed)

end

def callAll (writer : Writer) : List SessionStep → Writer × List StepReport
  | [] => (writer, [])
  | step :: rest =>
    let (after, report) := call target writer step
    let (last, reports) := callAll after rest
    (last, report :: reports)

end Writer

end PortableSql
