import PortableSql.Render.Leaf
import PortableSql.Render.Names
import PortableSql.Render.Pattern
import PortableSql.Writer

/-! Leaves, row values and patterns, as actions.

A comparison looks at the form of its operands and may write them more than once, or take a query apart; so
an operand comes with its form, and each of its parts is an action that can be taken wherever the part is to
be written.
-/

set_option autoImplicit false

namespace PortableSql.Write

/-- The parts of a query, as in `QueryParts`. -/
structure QueryActions where
  distinct : Bool
  selections : List (Action × Option String)
  sources : List Action
  restriction : Option Action
  groupBy : List Action
  hasHaving : Bool
  having : Option Action
  orderBy : List Action
  offset : Option Action
  fetch : Option Action
  lock : Option LockOptions

/-- A query with its parts, to be written in any scope. -/
structure ScopedQuery where
  parts : QueryActions
  inScope : Scope → Action

def ScopedQuery.subquery (query : ScopedQuery) : Action :=
  parens (query.inScope {})

/-- An expression in the form that comparisons look at. -/
inductive OperandAction where
  | plain (action : Action)
  | row (items : List Action)
  | subquery (quantifier : Quantifier) (query : ScopedQuery)

def OperandAction.action : OperandAction → Action
  | .plain action => action
  | .row items => parens (separated "," items)
  | .subquery .one query => query.subquery
  | .subquery .any query => do
    append "any"
    query.subquery
  | .subquery .every query => do
    append "all"
    query.subquery

def OperandAction.selected : OperandAction → Action
  | .row items => separated "," items
  | operand => operand.action

inductive SourceAction where
  | query (query : Query) (written : ScopedQuery)
  | function (call : FunctionCall) (action : Action)

abbrev RowAction := List Action → List Action → ComparisonOp → Action

/-! Leaves -/

def literal (config : Config) : Value → Action
  | .null => append "null"
  | .bool value => append (if value then "true" else "false")
  | .int value => append (toString value.toInt)
  | .float value => append (Value.floatText config value)
  | .string value => append (config.quote value)
  | .date value => append ("date '" ++ String.ofList value.text ++ "'")
  | .timestamp value => append ("timestamp '" ++ String.ofList (value.text ' ') ++ "'")

def column (column : ColumnRef) : Action := do
  ifSome column.qualifier fun qualifier => do
    append qualifier
    append "."
  append column.name

def aliasText (aliasName : String) : Action := do
  append " "
  append aliasName

/-- The name of a table, which the statement then is known to use. -/
def tableName (name : String) : Action := do
  append name
  register name

def namedTable (table : NamedTable) : Action := do
  tableName table.table
  ifSome table.aliasName aliasText

/-! Row values -/

def compare (left : Action) (op : ComparisonOp) (right : Action) : Action := do
  left
  append op.spacedText
  right

def pairwise (op : ComparisonOp) (left right : List Action) : List Action :=
  List.zipWith (fun l r => compare l op r) left right

/-- The lexicographic rule for an ordering of two rows. -/
def lexicographic (op : ComparisonOp) (ranges : Bool) : List Action → List Action → Action
  | [l], r :: _ => compare l op r
  | l :: ls, r :: rs => do
    let rest := lexicographic op ranges ls rs
    if ranges then
      compare l op.inclusive r
      append " and "
      parens do
        compare l op.strict r
        append " or "
        rest
    else
      compare l op.strict r
      append " or "
      compare l .eq r
      append " and "
      if 1 < ls.length then parens rest else rest
  | _, _ => pure ()

def expand (ranges : Bool) : RowAction := fun left right op =>
  if left.length ≠ right.length then throw (.rowLengths left.length right.length)
  else match left, right with
    | [l], [r] => compare l op r
    | _ :: _, _ :: _ =>
      match op with
      | .eq => parens (separated " and " (pairwise .eq left right))
      | .ne => parens (separated " or " (pairwise .ne left right))
      | .distinctFrom | .notDistinctFrom => throw .distinctRow
      | op => parens (lexicographic op ranges left right)
    | _, _ => throw .emptyRow

def restriction (clause : Clause) (keyword : String) (condition : Option Action) : Action :=
  ifSome condition fun action => inClause clause do
    append keyword
    action

def grouping (items : List Action) : Action :=
  onlyIf (!items.isEmpty) <| inClause .groupBy do
    append " group by "
    separated "," items

/-- What stands before the condition of an existence test: a grouped query keeps its own restriction and
takes the condition among those of its groups. -/
def conditionHead (query : QueryActions) (grouped : Bool) : Action :=
  if grouped then do
    restriction .restriction " where " query.restriction
    grouping query.groupBy
    append " having "
  else append " where "

/-- An existence test for a row of a query that compares with a given row. -/
def existence (compareRows : RowAction) (row : List Action) (query : QueryActions) (op : ComparisonOp)
    (negated : Bool) : Action :=
  if query.fetch.isSome || query.offset.isSome then throw .limitedSubquery
  else do
    let grouped := !query.groupBy.isEmpty || query.hasHaving
    onlyIf negated (append "not ")
    append "exists (select 1"
    onlyIf (!query.sources.isEmpty) do
      append " from "
      separated "," query.sources
    conditionHead query grouped
    ifSome (if grouped then query.having else query.restriction) fun condition => do
      append "("
      condition
      append ") and "
    compareRows (query.selections.map Prod.fst) row op.invert
    append ")"

def native (left : OperandAction) (op : ComparisonOp) (right : OperandAction) : Action :=
  compare left.action op right.action

/-- The test whether two operands are the same, null counting as a value. -/
def intersection (left : OperandAction) (negated : Bool) (right : OperandAction) : Action := do
  onlyIf negated (append "not ")
  append "exists (select "
  left.selected
  append " intersect select "
  right.selected
  append ")"

def emulate (compareRows : RowAction) (left : OperandAction) (op : ComparisonOp) (right : OperandAction) : Action :=
  match op with
  | .distinctFrom => intersection left true right
  | .notDistinctFrom => intersection left false right
  | op =>
    match left, right with
    | .row left, .row right => compareRows left right op
    | .row left, .subquery .one query =>
      if op = .ne then existence compareRows left query.parts .eq true
      else existence compareRows left query.parts op false
    | .row left, .subquery .any query => existence compareRows left query.parts op false
    | .row left, .subquery .every query => existence compareRows left query.parts op.negate true
    | left, right => native left op right

/-! Matches against a pattern -/

def escapeClause (escape : Option Action) : Action :=
  ifSome escape fun action => do
    append " escape "
    action

def standardMatch (caseSensitive negated : Bool) (expr pattern : Action) (escape : Option Action) : Action := do
  expr
  onlyIf negated (append " not")
  append (if caseSensitive then " like " else " ilike ")
  pattern
  escapeClause escape

def loweredMatch (config : Config) (negated : Bool) (expr pattern : Action) (escape : Option Action) : Action := do
  append config.lowercaseFunction
  parens expr
  onlyIf negated (append " not")
  append " like "
  append config.lowercaseFunction
  parens pattern
  escapeClause escape

def unescapedMatch (config : Config) (caseSensitive negated : Bool) (expr pattern : Action) : Action :=
  if caseSensitive then standardMatch true negated expr pattern none
  else loweredMatch config negated expr pattern none

/-! Names for the columns of a query -/

def renamed (query : Query) (written : ScopedQuery) (names : List String) : Action :=
  match query.namesRefused? names with
  | some cause => throw cause
  | none => parens (written.inScope { aliases := names })

end PortableSql.Write
