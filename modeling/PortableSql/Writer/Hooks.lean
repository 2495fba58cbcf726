import PortableSql.Dialect.Spanner
import PortableSql.Writer.Operand

/-! Hooks: the constructs that a dialect writes in its own way.

A hook acts on the writer before the standard rendering does, with the parts of the construct as actions. So
it can look at all that the writer holds, and write before it answers; that the hooks of a dialect leave no
trace of a construct that they leave to the standard rendering is for a proof to show.
-/

set_option autoImplicit false

namespace PortableSql.Write

/-- The hooks of a dialect, as in `Overrides`. -/
structure Hooks where
  lockStrategy : LockOptions → Option LockStrategy := fun _ => none
  offsetFetch (offset fetch : Option Action) : Write Emission := pure .standard
  comparison (compareRows : RowAction) (left : OperandAction) (op : ComparisonOp) (right : OperandAction) :
    Write Emission := pure .standard
  rowComparison (left right : List Action) (op : ComparisonOp) : Write Emission := pure .standard
  partitionItem : Expr → Write Emission := fun _ => pure .standard
  selectClause (distinct : Bool) (scope : Scope) (selections : Action) : Write Emission := pure .standard
  derivedTable : DerivedTable → SourceAction → Write Emission := fun _ _ => pure .standard
  derivedAlias : DerivedTable → Write Emission := fun _ => pure .standard
  queryPart (query : Query) (written : ScopedQuery) (names : List String) : Write Emission := pure .standard
  dmlTarget : NamedTable → Write Emission := fun _ => pure .standard
  delete (restriction : Option Predicate) (clause returning : Action) : Write Emission := pure .standard
  update (restriction : Option Predicate) (clause assignments returning : Action) : Write Emission :=
    pure .standard
  insertWithConflict (insert : Insert) (conflict : Conflict) (target source returning : Action) :
    Write Emission := pure .standard
  inArray (test array : Action) : Write Emission := pure .standard
  like (config : Config) (like : Like) (expr pattern : Action) (escape : Option Action) : Write Emission :=
    pure .standard
  arithmetic (left : Expr) (op : ArithmeticOp) (right : Expr) (l r : Action) : Write Emission :=
    pure .standard

namespace Spanner

/-- A hook that writes every construct it is given. -/
def always (action : Action) : Write Emission := do
  action
  return .written

def limitOffset (offset fetch : Option Action) : Action := do
  ifSome fetch fun action => inClause .fetch do
    append " limit "
    action
  ifSome offset fun action => inClause .offset do
    append " offset "
    action

def comparison (compareRows : RowAction) (left : OperandAction) (op : ComparisonOp)
    (right : OperandAction) : Action :=
  match op, right with
  | .eq, .subquery .any query => do
    left.action
    append " in "
    query.subquery
  | .ne, .subquery .every query => do
    left.action
    append " not in "
    query.subquery
  | op, right => emulate compareRows left op right

def partitionItem : Expr → Write Emission
  | .literal _ => always (append "'0' || '0'")
  | .summarization kind _ => throw (.summarization kind)
  | _ => return .standard

def selectClause (distinct : Bool) (scope : Scope) (selections : Action) : Action := do
  append "select "
  onlyIf scope.correlated (append "as struct ")
  onlyIf distinct (append "distinct ")
  selections

def functionAlias (call : FunctionCall) (table : DerivedTable) : Action :=
  match table.columnNames with
  | [] => aliasText table.aliasName
  | [column] =>
    if call.name.toLower = "unnest" then aliasText column
    else throw (.functionColumns [column] call.name table.aliasName)
  | columns => throw (.functionColumns columns call.name table.aliasName)

def derivedAlias (table : DerivedTable) : Action :=
  match table.source with
  | .function call => functionAlias call table
  | .query _ => aliasText table.aliasName

def lateralTable (table : DerivedTable) : SourceAction → Action
  | .query query written =>
    match query.namesRefused? table.columnNames with
    | some cause => throw cause
    | none => do
      append "unnest(array("
      written.inScope ⟨true, table.columnNames⟩
      append "))"
      aliasText table.aliasName
  | .function _ action => do
    action
    derivedAlias table

def derivedTable (table : DerivedTable) (source : SourceAction) : Write Emission :=
  if table.lateral then always (lateralTable table source) else return .standard

/-- The target of an insertion has no alias; where the target stands is read off the writer. -/
def dmlTarget (table : NamedTable) : Action := do
  tableName table.table
  let clause ← currentClause
  onlyIf (clause != some .insert) (ifSome table.aliasName aliasText)

def unrestricted (restriction : Option Predicate) (head returning : Action) : Write Emission :=
  if Predicate.restricts restriction then return .standard
  else always do
    head
    append " where true"
    returning

def insertWithConflict (insert : Insert) (conflict : Conflict) (target source returning : Action) : Action :=
  match PortableSql.Spanner.conflictRefused? conflict with
  | some cause => throw cause
  | none => do
    inClause .insert do
      append (if conflict.action.isUpdate then "insert or update into " else "insert or ignore into ")
      target
      onlyIf (!insert.columns.isEmpty) (parens (names insert.columns))
      append " "
    source
    returning

/-- A match with an escape. -/
def escapedLike (config : Config) (node : Like) (escape : Expr) (expr pattern : Action) : Action :=
  let act := unescapedMatch config node.caseSensitive node.negated expr
  match Pattern.escape? escape with
  | none => throw .escapeNotCharacter
  | some c =>
    if c = '\\' then act pattern
    else match node.pattern.string? with
      | none => throw (.patternNotLiteral c)
      | some text => act (literal config (.string (String.ofList (Pattern.backslashed c text.toList))))

def like (config : Config) (node : Like) (expr pattern : Action) : Write Emission :=
  match node.escape with
  | none =>
    if node.caseSensitive then return .standard
    else always (unescapedMatch config node.caseSensitive node.negated expr pattern)
  | some escape => always (escapedLike config node escape expr pattern)

def inArray (test array : Action) : Action := do
  test
  append " in unnest"
  parens array

def arithmetic (left : Expr) (op : ArithmeticOp) (right : Expr) (l r : Action) : Write Emission :=
  if op.isIntegerDivision left right then
    always do
      append "div"
      parens do
        l
        append ","
        r
  else return .standard

def hooks : Hooks where
  lockStrategy _ := some .none
  offsetFetch offset fetch := always (limitOffset offset fetch)
  comparison compareRows left op right := always (comparison compareRows left op right)
  rowComparison left right op := always (expand true left right op)
  partitionItem := partitionItem
  selectClause distinct scope selections := always (selectClause distinct scope selections)
  derivedTable := derivedTable
  derivedAlias table := always (derivedAlias table)
  queryPart query written names := always (renamed query written names)
  dmlTarget table := always (dmlTarget table)
  delete restriction clause returning := unrestricted restriction clause returning
  update restriction clause assignments returning :=
    unrestricted restriction (do clause; assignments) returning
  insertWithConflict insert conflict target source returning :=
    always (insertWithConflict insert conflict target source returning)
  inArray test array := always (inArray test array)
  like config node expr pattern _ := like config node expr pattern
  arithmetic := arithmetic

end Spanner

end PortableSql.Write

namespace PortableSql

def Dialect.hooks : Dialect → Write.Hooks
  | .generic => {}
  | .spanner => Write.Spanner.hooks

abbrev Target.hooks (target : Target) : Write.Hooks :=
  target.dialect.hooks

end PortableSql
