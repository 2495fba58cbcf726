import PortableSql.Dialect
import PortableSql.Render.Names
import PortableSql.Render.Pattern
import PortableSql.Render.RowValue

/-! The constructs that Cloud Spanner renders in its own way.

Spanner has no lateral tables, no match that ignores case, no escape clause, no comparison of row
values, no distinctness, no groupings of groupings, no conflict clause and no change without a
restriction. What can be said otherwise is; the rest is refused, and then nothing is written.
-/

set_option autoImplicit false

namespace PortableSql.Spanner

def limitOffset (offset fetch : Option Fragment) : Fragment :=
  (Fragment.ifSome fetch fun fragment => .inClause .fetch (.text " limit " ++ fragment))
    ++ .ifSome offset fun fragment => .inClause .offset (.text " offset " ++ fragment)

def comparison (compareRows : RowComparison) (left : Operand) (op : ComparisonOp)
    (right : Operand) : Fragment :=
  match op, right with
  | .eq, .subquery .any query => left.fragment ++ .text " in " ++ query.subquery
  | .ne, .subquery .every query => left.fragment ++ .text " not in " ++ query.subquery
  | op, right => RowValue.emulate compareRows left op right

/-- A literal groups everything into one bucket, by a constant that is no grouping of its own. -/
def partitionItem : Expr → Option Fragment
  | .literal _ => some (.text "'0' || '0'")
  | .summarization kind _ => some (.fail (.summarization kind))
  | _ => none

/-- A correlated query yields its rows as structures. -/
def selectClause (distinct : Bool) (scope : Scope) (selections : Fragment) : Fragment :=
  .text "select " ++ .onlyIf scope.correlated (.text "as struct ")
    ++ .onlyIf distinct (.text "distinct ") ++ selections

/-- The alias of a function in a from item. There is no list of column names; the only column of
`unnest` is named by the alias. -/
def functionAlias (call : FunctionCall) (table : DerivedTable) : Fragment :=
  match table.columnNames with
  | [] => table.aliasFragment
  | [column] =>
    if call.name.toLower = "unnest" then .aliasText column
    else .fail (.functionColumns [column] call.name table.aliasName)
  | columns => .fail (.functionColumns columns call.name table.aliasName)

def derivedAlias (table : DerivedTable) : Fragment :=
  match table.source with
  | .function call => functionAlias call table
  | .query _ => table.aliasFragment

/-- A lateral query is an array of its rows, unnested; a function is lateral of itself. -/
def derivedTable (table : DerivedTable) (source : RenderedSource) : Option Fragment :=
  if table.lateral then
    some <| match source with
      | .query query rendered =>
        match query.namesRefused? table.columnNames with
        | some cause => .fail cause
        | none =>
          .text "unnest(array(" ++ rendered.inScope ⟨true, table.columnNames⟩ ++ .text "))"
            ++ table.aliasFragment
      | .function _ rendered => rendered ++ derivedAlias table
  else none

def dmlTarget (clause : Option Clause) (target : NamedTable) : Fragment :=
  .table target.table ++ .onlyIf (clause != some .insert) (.ifSome target.aliasName .aliasText)

/-- A change without a restriction gets one that always holds. -/
def unrestricted (restriction : Option Predicate) (head returning : Fragment) : Option Fragment :=
  if Predicate.restricts restriction then none else some (head ++ .text " where true" ++ returning)

/-- Why a conflict clause has no form in Spanner, where conflicts are always about the primary key. -/
def conflictRefused? (conflict : Conflict) : Option Error :=
  if conflict.constraintName.isSome then some .namedConstraint
  else if !conflict.constraintColumns.isEmpty then some .constraintColumns
  else if Predicate.restricts conflict.predicate then some .conflictPredicate
  else none

def insertWithConflict (insert : Insert) (conflict : Conflict)
    (target source returning : Fragment) : Fragment :=
  match conflictRefused? conflict with
  | some cause => .fail cause
  | none =>
    let words :=
      if conflict.action.isUpdate then "insert or update into " else "insert or ignore into "
    .inClause .insert (.text words ++ target
        ++ .onlyIf (!insert.columns.isEmpty) (.parens (.names insert.columns)) ++ .text " ")
      ++ source ++ returning

def like (config : Config) (like : Like) (expr pattern : Fragment) : Option Fragment :=
  let write := Pattern.unescaped config like.caseSensitive like.negated expr
  match like.escape with
  | none => if like.caseSensitive then none else some (write pattern)
  | some escape =>
    some <| match Pattern.escape? escape with
      | none => .fail .escapeNotCharacter
      | some c =>
        if c = '\\' then write pattern
        else match like.pattern.string? with
          | none => .fail (.patternNotLiteral c)
          | some text => write (.literal (String.ofList (Pattern.backslashed c text.toList)))

def arithmetic (left : Expr) (op : ArithmeticOp) (right : Expr) (l r : Fragment) :
    Option Fragment :=
  if op.isIntegerDivision left right then
    some (.text "div" ++ .parens (l ++ .text "," ++ r))
  else none

def overrides : Overrides where
  lockStrategy _ := some .none
  offsetFetch offset fetch := some (limitOffset offset fetch)
  comparison compareRows left op right := some (comparison compareRows left op right)
  rowComparison left right op := some (RowValue.expand true left right op)
  partitionItem := partitionItem
  selectClause distinct scope selections := some (selectClause distinct scope selections)
  derivedTable := derivedTable
  derivedAlias table := some (derivedAlias table)
  queryPart query rendered names := some (rendered.renamed query names)
  dmlTarget clause target := some (dmlTarget clause target)
  delete restriction clause returning := unrestricted restriction clause returning
  update restriction clause assignments returning :=
    unrestricted restriction (clause ++ assignments) returning
  insertWithConflict insert conflict target source returning :=
    some (insertWithConflict insert conflict target source returning)
  inArray test array := some (test ++ .text " in unnest" ++ .parens array)
  like config node expr pattern _ := like config node expr pattern
  arithmetic := arithmetic

end PortableSql.Spanner

namespace PortableSql

def Dialect.overrides : Dialect → Overrides
  | .generic => .none
  | .spanner => Spanner.overrides

structure Target where
  dialect : Dialect
  config : Config

abbrev Target.overrides (target : Target) : Overrides :=
  target.dialect.overrides

end PortableSql
