import PortableSql.Proofs.Added
import PortableSql.Proofs.Node

/-! The traversal of a statement, node by node.

Each list of nodes is rendered element by element, so that what a node adds is put together from what
the nodes below it add (`Node.fragment`).
-/

set_option autoImplicit false

namespace PortableSql.Render

variable (target : Target)

theorem partitionItems_eq_map (items : List Expr) :
    partitionItems target items = items.map fun item => partitionItem target item (expr target item) := by
  induction items with
  | nil => rfl
  | cons item items ih => simp only [partitionItems, ih, List.map_cons, expr]

theorem sortItems_eq_map (items : List SortItem) :
    sortItems target items =
      items.map fun item => sortItem (expr target item.expr) item.descending item.nulls := by
  induction items with
  | nil => rfl
  | cons item items ih =>
    obtain ⟨sorted, descending, nulls⟩ := item
    simp only [sortItems, ih, List.map_cons, expr]

theorem selectionList_eq_map (selections : List Selection) :
    selectionList target selections =
      selections.map fun selection => (expr target selection.expr, selection.aliasName) := by
  induction selections with
  | nil => rfl
  | cons selection selections ih =>
    obtain ⟨selected, aliasName⟩ := selection
    simp only [selectionList, ih, List.map_cons, expr]

theorem selectionList_fst (selections : List Selection) :
    (selectionList target selections).map Prod.fst =
      selections.map fun selection => expr target selection.expr := by
  simp only [selectionList_eq_map, List.map_map, Function.comp_def]

theorem aliased_nil (selections : List (Fragment × Option String)) :
    aliased selections [] = selections.map fun selection => selection.1 ++ .ifSome selection.2 .aliasText := by
  induction selections with
  | nil => rfl
  | cons selection selections ih => simp only [aliased, ih, List.map_cons]

theorem junctionParts_eq_flatMap (parts : List Predicate) :
    junctionParts target parts =
      parts.flatMap fun part => junctionPart part (predicate target part) := by
  induction parts with
  | nil => rfl
  | cons part parts ih => simp only [junctionParts, ih, List.flatMap_cons]

theorem junctionParts_eq_map (parts : List Predicate) :
    junctionParts target parts = (parts.filter (!·.isEmpty)).map fun part =>
      if part.isSeveral then .parens (predicate target part) else predicate target part := by
  induction parts with
  | nil => rfl
  | cons part parts ih =>
    rw [junctionParts, ih, junctionPart, List.filter_cons]
    cases part.isEmpty with
    | true => rfl
    | false => cases several : part.isSeveral <;> simp [several]

def group (from_ : TableGroup) : Fragment :=
  table target from_.primary ++ joins target from_.joins

theorem groups_eq_map (sources : List TableGroup) :
    groups target sources = sources.map (group target) := by
  induction sources with
  | nil => rfl
  | cons source sources ih =>
    obtain ⟨primary, joined⟩ := source
    simp only [groups, ih, List.map_cons, group]

theorem joins_cons (joined : Join) (rest : List Join) :
    joins target (joined :: rest) =
      join joined.kind (table target joined.table) (condition target joined.on) ++ joins target rest := by
  obtain ⟨kind, right, on⟩ := joined
  rfl

theorem condition_eq_map (restriction : Option Predicate) :
    condition target restriction = (Predicate.effective? restriction).map (predicate target) := by
  cases restriction with
  | none => rfl
  | some p =>
    rw [condition, Predicate.effective?]
    split <;> rfl

theorem optional_eq_map (value : Option Expr) : optional target value = value.map (expr target) := by
  cases value <;> rfl

theorem expr_arithmetic (left : Expr) (op : ArithmeticOp) (right : Expr) :
    expr target (.arithmetic left op right) =
      arithmetic target left op right (expr target left) (expr target right) := rfl

theorem query_parts (nested : Query) :
    (query target nested).parts = {
      distinct := nested.distinct
      selections := selectionList target nested.selections
      sources := groups target nested.sources
      restriction := condition target nested.restriction
      groupBy := partitionItems target nested.groupBy
      hasHaving := nested.having.isSome
      having := condition target nested.having
      orderBy := sortItems target nested.orderBy
      offset := optional target nested.offset
      fetch := optional target nested.fetch
      lock := nested.lock } := by
  cases nested
  rfl

theorem query_inScope (nested : Query) (scope : Scope) :
    (query target nested).inScope scope = queryInScope target (query target nested).parts scope := by
  cases nested
  rfl

end PortableSql.Render

namespace PortableSql

/-- What a node adds to a statement. -/
def Node.fragment (target : Target) (scope : Scope) : Node → Fragment
  | .statement node => Render.statement target node
  | .query node => (Render.query target node).inScope scope
  | .group node => Render.group target node
  | .table node => Render.table target node
  | .predicate node => Render.predicate target node
  | .expr node => Render.expr target node
  | .item node => Render.partitionItem target node (Render.expr target node)

end PortableSql
