import PortableSql.Render.Operand

/-! Comparisons of row values, written as comparisons of their elements.

Equality of rows is a conjunction, inequality a disjunction, and an ordering a lexicographic rule. In
its plain form a level of the rule reads `a < c or a = c and …`; in its range form each level leads
with a condition that a search in an index can start from: `a <= c and (a < c or …)`. A row compared
with a subquery becomes an existence test over the rows of the subquery.
-/

set_option autoImplicit false

namespace PortableSql.RowValue

def compare (left : Fragment) (op : ComparisonOp) (right : Fragment) : Fragment :=
  left ++ .text op.spacedText ++ right

def pairwise (op : ComparisonOp) (left right : List Fragment) : List Fragment :=
  List.zipWith (fun l r => compare l op r) left right

/-- The lexicographic rule for an ordering of two rows. -/
def lexicographic (op : ComparisonOp) (ranges : Bool) : List Fragment → List Fragment → Fragment
  | [l], r :: _ => compare l op r
  | l :: ls, r :: rs =>
    let rest := lexicographic op ranges ls rs
    if ranges then
      compare l op.inclusive r ++ .text " and " ++ .parens (compare l op.strict r ++ .text " or " ++ rest)
    else
      compare l op.strict r ++ .text " or " ++ compare l .eq r ++ .text " and "
        ++ if 1 < ls.length then .parens rest else rest
  | _, _ => .nil

def expand (ranges : Bool) : RowComparison := fun left right op =>
  if left.length ≠ right.length then .fail (.rowLengths left.length right.length)
  else match left, right with
    | [l], [r] => compare l op r
    | _ :: _, _ :: _ =>
      match op with
      | .eq => .parens (.separated " and " (pairwise .eq left right))
      | .ne => .parens (.separated " or " (pairwise .ne left right))
      | .distinctFrom | .notDistinctFrom => .fail .distinctRow
      | op => .parens (lexicographic op ranges left right)
    | _, _ => .fail .emptyRow

def restriction (clause : Clause) (keyword : String) (condition : Option Fragment) : Fragment :=
  .ifSome condition fun fragment => .inClause clause (.text keyword ++ fragment)

def grouping (items : List Fragment) : Fragment :=
  .onlyIf (!items.isEmpty) (.inClause .groupBy (.text " group by " ++ .separated "," items))

/-- An existence test for a row of a query that compares with a given row. The condition on the rows
joins the restriction of the query or, if the query is grouped, its having condition. -/
def existence (compareRows : RowComparison) (row : List Fragment) (query : QueryParts)
    (op : ComparisonOp) (negated : Bool) : Fragment :=
  if query.fetch.isSome || query.offset.isSome then .fail .limitedSubquery
  else
    let grouped := !query.groupBy.isEmpty || query.hasHaving
    let condition := if grouped then query.having else query.restriction
    .onlyIf negated (.text "not ")
      ++ .text "exists (select 1"
      ++ .onlyIf (!query.sources.isEmpty) (.text " from " ++ .separated "," query.sources)
      ++ (if grouped then
            restriction .restriction " where " query.restriction ++ grouping query.groupBy
              ++ .text " having "
          else .text " where ")
      ++ .ifSome condition (fun fragment => .text "(" ++ fragment ++ .text ") and ")
      ++ compareRows (query.selections.map Prod.fst) row op.invert
      ++ .text ")"

def native (left : Operand) (op : ComparisonOp) (right : Operand) : Fragment :=
  compare left.fragment op right.fragment

/-- The test whether two operands are the same, null counting as a value: they are if the queries of
one row each have a row in common. -/
def intersection (left : Operand) (negated : Bool) (right : Operand) : Fragment :=
  .onlyIf negated (.text "not ")
    ++ .text "exists (select " ++ left.selected ++ .text " intersect select " ++ right.selected
    ++ .text ")"

def emulate (compareRows : RowComparison) (left : Operand) (op : ComparisonOp) (right : Operand) :
    Fragment :=
  match op with
  | .distinctFrom => intersection left true right
  | .notDistinctFrom => intersection left false right
  | op =>
    match left, right with
    | .row left, .row right => compareRows left right op
    | .row left, .subquery .one query =>
      if op = .ne then existence compareRows left query.parts .eq true
      else existence compareRows left query.parts op false
    | .row left, .subquery .any query => existence compareRows left query.parts op false
    | .row left, .subquery .every query => existence compareRows left query.parts op.negate true
    | left, right => native left op right

end PortableSql.RowValue
