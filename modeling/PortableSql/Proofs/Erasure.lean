import PortableSql.Proofs.ComparisonForm

/-! Conditions that restrict nothing.

An optional predicate without atoms is written like one that is not there (`Statement.render_erased`).
There is one exception: a row value compared with an ungrouped query goes into the having condition of
the query if that condition is present, be it empty, and into its restriction if it is not.
-/

set_option autoImplicit false

namespace PortableSql

/-- Leaving out the optional predicates that restrict nothing. -/
def Revision.erasure : Revision where
  keeps p := !p.isEmpty

/-- A statement without its empty restrictions, having conditions, join conditions and conflict
predicates, at all depths. -/
def Statement.erased (statement : Statement) : Statement :=
  statement.revise .erasure

/-- Whether a comparison is added to the having condition of a query that has an empty one and no
groups. -/
def Spanner.ComparisonForm.Displaced : ComparisonForm → Prop
  | .existence _ nested _ _ =>
    nested.groupBy = [] ∧ nested.having.isSome ∧ Predicate.restricts nested.having = false ∧
      nested.offset = none ∧ nested.fetch = none
  | _ => False

/-- Whether a node is a comparison that an empty having condition displaces. -/
def Node.Displaced : Node → Prop
  | .predicate (.comparison left op right) => (Spanner.ComparisonForm.of left op right).Displaced
  | _ => False

namespace Revision

@[simp] theorem below_erasure (branch : Nat) : erasure.below branch = erasure := rfl

@[simp] theorem sparing_erasure : erasure.sparing = erasure := rfl

@[simp] theorem keepsLocks_erasure : erasure.keepsLocks = true := rfl

theorem each_erasure {α : Type} (revise : Revision → α → α) (elements : List α) :
    erasure.each revise elements = elements.map (revise erasure) :=
  each_eq_map below_erasure revise elements

theorem value_erasure (value : Value) : value.revise erasure = value :=
  value.revise_eq_self fun _ => rfl

/-- What has an atom is kept. -/
theorem keeps_erasure (p : Predicate) (inhabited : p.isEmpty = false) : erasure.keeps p = true := by
  simp [erasure, inhabited]

theorem condition_erasure (restriction : Option Predicate) :
    reviseCondition erasure restriction =
      (Predicate.effective? restriction).map (Predicate.revise erasure) := by
  cases restriction with
  | none => rfl
  | some p => cases empty : p.isEmpty <;> simp [reviseCondition, erasure, Predicate.effective?, empty]

end Revision

/-- Whether a node is written as it is without the predicates that restrict nothing. -/
def Node.Settled (target : Target) (node : Node) : Prop :=
  ∀ scope, (node.revise .erasure).fragment target scope = node.fragment target scope

namespace Render

open Revision

variable {target : Target}

theorem exprs_erased {exprs : List Expr} (settled : ∀ e ∈ exprs, Node.Settled target (.expr e)) :
    Render.exprs target (reviseExprs .erasure exprs) = Render.exprs target exprs := by
  rw [reviseExprs_eq, each_erasure, exprs_eq_map, exprs_eq_map, List.map_map]
  exact List.map_congr_left fun e mem => settled e mem {}

theorem function_erased {call : FunctionCall} (settled : ∀ e ∈ call.args, Node.Settled target (.expr e)) :
    function target (call.revise .erasure) = function target call := by
  obtain ⟨name, args, returnType⟩ := call
  simp only [FunctionCall.revise, function, exprs_erased settled]

theorem partitionItems_erased {items : List Expr} (settled : ∀ e ∈ items, Node.Settled target (.item e)) :
    partitionItems target (reviseExprs .erasure items) = partitionItems target items := by
  rw [reviseExprs_eq, each_erasure, partitionItems_eq_map, partitionItems_eq_map, List.map_map]
  exact List.map_congr_left fun e mem => settled e mem {}

theorem sortItems_erased {items : List SortItem}
    (settled : ∀ item ∈ items, Node.Settled target (.expr item.expr)) :
    sortItems target (reviseSorts .erasure items) = sortItems target items := by
  rw [reviseSorts_eq, each_erasure, sortItems_eq_map, sortItems_eq_map, List.map_map]
  refine List.map_congr_left fun item mem => ?_
  have same : expr target (item.expr.revise .erasure) = expr target item.expr := settled item mem {}
  simp only [Function.comp_apply, SortItem.revise, same]

theorem selectionList_erased {selections : List Selection}
    (settled : ∀ selection ∈ selections, Node.Settled target (.expr selection.expr)) :
    selectionList target (reviseSelections .erasure selections) = selectionList target selections := by
  rw [reviseSelections_eq, each_erasure, selectionList_eq_map, selectionList_eq_map, List.map_map]
  refine List.map_congr_left fun selection mem => ?_
  have same : expr target (selection.expr.revise .erasure) = expr target selection.expr :=
    settled selection mem {}
  simp only [Function.comp_apply, Selection.revise, same]

theorem condition_erased {restriction : Option Predicate}
    (settled : ∀ p ∈ restriction, Node.Settled target (.predicate p)) :
    condition target (reviseCondition .erasure restriction) = condition target restriction := by
  rw [condition_erasure]
  cases restriction with
  | none => rfl
  | some p =>
    have same : predicate target (p.revise .erasure) = predicate target p := settled p rfl {}
    cases empty : p.isEmpty <;>
      simp [Predicate.effective?, condition, empty, Predicate.isEmpty_revise, same]

theorem optional_erased {value : Option Expr} (settled : ∀ e ∈ value, Node.Settled target (.expr e)) :
    optional target (reviseOptional .erasure value) = optional target value := by
  cases value with
  | none => rfl
  | some e => exact congrArg some (settled e rfl {})

theorem joins_erased {joined : List Join}
    (settled : ∀ j ∈ joined, ∀ node ∈ j.nodes, node.Settled target) :
    joins target (reviseJoins .erasure joined) = joins target joined := by
  rw [reviseJoins_eq, each_erasure]
  induction joined with
  | nil => rfl
  | cons j rest ih =>
    have own := settled j List.mem_cons_self
    have right : table target (j.table.revise .erasure) = table target j.table :=
      own (.table j.table) List.mem_cons_self {}
    have on : condition target (reviseCondition .erasure j.on) = condition target j.on :=
      condition_erased fun p present =>
        own (.predicate p) (List.mem_cons_of_mem _ (List.mem_map_of_mem (Option.mem_toList.mpr present)))
    rw [List.map_cons, joins_cons, joins_cons, ih fun k mem => settled k (List.mem_cons_of_mem _ mem)]
    simp only [Join.revise, below_erasure, right, on]

theorem group_erased {from_ : TableGroup} (settled : ∀ node ∈ from_.nodes, node.Settled target) :
    group target (from_.revise .erasure) = group target from_ := by
  have primary : table target (from_.primary.revise .erasure) = table target from_.primary :=
    settled (.table from_.primary) List.mem_cons_self {}
  have joined : joins target (reviseJoins .erasure from_.joins) = joins target from_.joins :=
    joins_erased fun j mem node inner =>
      settled node (List.mem_cons_of_mem _ (List.mem_flatMap_of_mem mem inner))
  simp only [group, TableGroup.revise, below_erasure, primary, joined]

theorem groups_erased {sources : List TableGroup}
    (settled : ∀ g ∈ sources, Node.Settled target (.group g)) :
    groups target (reviseGroups .erasure sources) = groups target sources := by
  rw [reviseGroups_eq, each_erasure, groups_eq_map, groups_eq_map, List.map_map]
  exact List.map_congr_left fun g mem => settled g mem {}

/-- All parts of a query stay but the mark that it has a having condition. -/
theorem query_parts_erased {nested : Query} (settled : ∀ node ∈ nested.nodes, node.Settled target) :
    (query target (nested.revise .erasure)).parts =
      { (query target nested).parts with
        hasHaving := (reviseCondition .erasure nested.having).isSome } := by
  obtain ⟨selections, sources, restriction, groupBy, having, orderBy, offset, fetch⟩ :=
    Query.forall_nodes.mp settled
  rw [query_parts, query_parts]
  cases nested
  simp only [Query.revise, below_erasure, selectionList_erased selections, groups_erased sources,
    condition_erased restriction, partitionItems_erased groupBy, condition_erased having,
    sortItems_erased orderBy, optional_erased offset, optional_erased fetch, keepsLocks_erasure, if_true]

theorem query_inScope_erased {nested : Query} (settled : ∀ node ∈ nested.nodes, node.Settled target)
    (scope : Scope) :
    (query target (nested.revise .erasure)).inScope scope = (query target nested).inScope scope := by
  rw [query_inScope, query_inScope, query_parts_erased settled]
  rfl

theorem table_erased {from_ : TableRef} (settled : ∀ node ∈ from_.nodes, node.Settled target) :
    table target (from_.revise .erasure) = table target from_ := by
  match from_, settled with
  | .named _, _ => rfl
  | .derived ⟨.query nested, aliasName, names, lateral⟩, settled =>
    have same : (query target (nested.revise .erasure)).inScope = (query target nested).inScope :=
      funext (settled (.query nested) List.mem_cons_self)
    obtain ⟨dialect, config⟩ := target
    cases dialect <;>
      simp [TableRef.revise, DerivedSource.revise, table, source, derivedTable, queryPart,
        derivedAlias, Target.overrides, Dialect.overrides, Overrides.none, Spanner.overrides,
        Spanner.derivedTable, Spanner.derivedAlias, RenderedQuery.renamed, RenderedQuery.subquery,
        Query.namesRefused?_revise, same, DerivedTable.aliasFragment]
  | .derived ⟨.function call, aliasName, names, lateral⟩, settled =>
    have same : function target (call.revise .erasure) = function target call :=
      function_erased fun e mem => settled (.expr e) (List.mem_map_of_mem mem)
    have name : (call.revise .erasure).name = call.name := by
      cases call
      rfl
    obtain ⟨dialect, config⟩ := target
    cases dialect <;>
      simp [TableRef.revise, DerivedSource.revise, table, source, derivedTable, derivedAlias,
        Target.overrides, Dialect.overrides, Overrides.none, Spanner.overrides, Spanner.derivedTable,
        Spanner.derivedAlias, Spanner.functionAlias, same, name, DerivedTable.aliasFragment]

/-- The operands of an intersection are written without the brackets of a row value. -/
theorem selected_erased {e : Expr} (settled : ∀ node, (Node.expr e).Within node → node.Settled target) :
    (operand target (e.revise .erasure)).selected = (operand target e).selected := by
  cases e with
  | tuple items =>
    have same : exprs target (reviseExprs .erasure items) = exprs target items :=
      exprs_erased fun item mem =>
        settled (.expr item) (.single (List.mem_map_of_mem mem))
    simp only [Expr.revise, operand, Operand.selected, same]
  | star | literal | column | parameter | arithmetic | function | window | subquery
  | summarization => exact settled (.expr _) .refl {}

theorem existence_hasHaving {compareRows : RowComparison} {row : List Fragment} {query : QueryParts}
    {op : ComparisonOp} {negated having : Bool}
    (same : query.offset.isSome ∨ query.fetch.isSome ∨ query.groupBy ≠ [] ∨ query.hasHaving = having) :
    RowValue.existence compareRows row { query with hasHaving := having } op negated =
      RowValue.existence compareRows row query op negated := by
  rcases same with limited | limited | grouped | same
  · simp [RowValue.existence, limited]
  · simp [RowValue.existence, limited]
  · simp [RowValue.existence, grouped]
  · simp [RowValue.existence, same]

theorem native_erased {left right : Expr} (onLeft : Node.Settled target (.expr left))
    (onRight : Node.Settled target (.expr right)) (op : ComparisonOp) :
    ((Spanner.ComparisonForm.native left op right).revise .erasure).fragment target =
      (Spanner.ComparisonForm.native left op right).fragment target := by
  have l : expr target (left.revise .erasure) = expr target left := onLeft {}
  have r : expr target (right.revise .erasure) = expr target right := onRight {}
  simp only [Spanner.ComparisonForm.revise, Spanner.ComparisonForm.fragment, below_erasure, l, r]

theorem existence_erased {row : List Expr} {nested : Query} {op : ComparisonOp} {negated : Bool}
    (onRow : ∀ e ∈ row, Node.Settled target (.expr e))
    (onQuery : ∀ node ∈ nested.nodes, node.Settled target)
    (apart : ¬ (Spanner.ComparisonForm.existence row nested op negated).Displaced) :
    ((Spanner.ComparisonForm.existence row nested op negated).revise .erasure).fragment target =
      (Spanner.ComparisonForm.existence row nested op negated).fragment target := by
  simp only [Spanner.ComparisonForm.revise, Spanner.ComparisonForm.fragment, below_erasure,
    exprs_erased onRow, query_parts_erased onQuery]
  apply existence_hasHaving
  rw [query_parts, condition_erasure]
  simp only [optional_eq_map, partitionItems_eq_map, Option.isSome_map, ne_eq, List.map_eq_nil_iff]
  refine Classical.byContradiction fun contrary => ?_
  simp only [not_or, Bool.not_eq_true, Option.isSome_eq_false_iff, Option.isNone_iff_eq_none,
    Classical.not_not] at contrary
  obtain ⟨offset, fetch, groupBy, having⟩ := contrary
  refine apart ⟨groupBy, ?_, ?_, offset, fetch⟩
  · cases present : nested.having <;> simp_all [Predicate.effective?]
  · cases present : nested.having with
    | none => rfl
    | some p => cases empty : p.isEmpty <;> simp_all [Predicate.effective?, Predicate.restricts]

theorem comparisonForm_erased {left : Expr} {op : ComparisonOp} {right : Expr}
    (settled : ∀ node, (Node.predicate (.comparison left op right)).Below node → node.Settled target)
    (apart : ¬ (Spanner.ComparisonForm.of left op right).Displaced) :
    ((Spanner.ComparisonForm.of left op right).revise .erasure).fragment target =
      (Spanner.ComparisonForm.of left op right).fragment target := by
  have left_mem : Node.expr left ∈ (Node.predicate (.comparison left op right)).children :=
    List.mem_cons_self
  have right_mem : Node.expr right ∈ (Node.predicate (.comparison left op right)).children :=
    List.mem_cons_of_mem _ List.mem_cons_self
  have onLeft : Node.Settled target (.expr left) := settled _ (Node.below_of_mem left_mem)
  have onRight : Node.Settled target (.expr right) := settled _ (Node.below_of_mem right_mem)
  have native (_ : ¬ (Spanner.ComparisonForm.native left op right).Displaced) := native_erased onLeft onRight op
  revert apart
  refine Spanner.ComparisonForm.of_cases left op right
    (motive := fun form => ¬ form.Displaced → (form.revise .erasure).fragment target = form.fragment target)
    ?intersection ?membership ?existence ?rows native
  case intersection =>
    intro _
    have l := selected_erased fun node within => settled node (.head' left_mem within)
    have r := selected_erased fun node within => settled node (.head' right_mem within)
    simp only [Spanner.ComparisonForm.revise, Spanner.ComparisonForm.fragment, below_erasure,
      RowValue.intersection, l, r]
  case membership =>
    rintro quantifier nested rfl _
    have l : expr target (left.revise .erasure) = expr target left := onLeft {}
    have r : (query target (nested.revise .erasure)).inScope = (query target nested).inScope :=
      funext (settled (.query nested) (.tail (.single right_mem) List.mem_cons_self))
    simp only [Spanner.ComparisonForm.revise, Spanner.ComparisonForm.fragment, below_erasure,
      RenderedQuery.subquery, l, r]
  case existence =>
    rintro row quantifier nested rfl rfl _ _
    refine existence_erased (fun e mem => settled _ (.tail (.single left_mem) ?_)) fun node mem =>
      settled node (.tail (.tail (.single right_mem) List.mem_cons_self) mem)
    exact List.mem_map_of_mem mem
  case rows =>
    rintro row others rfl rfl _ _
    have l : exprs target (reviseExprs .erasure row) = exprs target row :=
      exprs_erased fun e mem => settled _ (.tail (.single left_mem) (List.mem_map_of_mem mem))
    have r : exprs target (reviseExprs .erasure others) = exprs target others :=
      exprs_erased fun e mem => settled _ (.tail (.single right_mem) (List.mem_map_of_mem mem))
    simp only [Spanner.ComparisonForm.revise, Spanner.ComparisonForm.fragment, below_erasure, l, r]

/-- A comparison is written as before unless an empty having condition displaces it; the generic
dialect takes no comparison apart. -/
theorem comparison_erased {left : Expr} {op : ComparisonOp} {right : Expr}
    (settled : ∀ node, (Node.predicate (.comparison left op right)).Below node → node.Settled target)
    (apart : target.dialect = .generic ∨ ¬ (Spanner.ComparisonForm.of left op right).Displaced) :
    Node.Settled target (.predicate (.comparison left op right)) := by
  intro scope
  obtain ⟨dialect, config⟩ := target
  cases dialect with
  | generic =>
    have l : expr ⟨.generic, config⟩ (left.revise .erasure) = expr ⟨.generic, config⟩ left :=
      settled _ (Node.below_of_mem List.mem_cons_self) {}
    have r : expr ⟨.generic, config⟩ (right.revise .erasure) = expr ⟨.generic, config⟩ right :=
      settled _ (Node.below_of_mem (List.mem_cons_of_mem _ List.mem_cons_self)) {}
    simp only [expr] at l r
    simp [Node.revise, Node.fragment, Predicate.revise, predicate, comparison, Target.overrides,
      Dialect.overrides, Overrides.none, RowValue.native, l, r]
  | spanner =>
    have same := comparisonForm_erased settled (apart.resolve_left nofun)
    rw [← Spanner.ComparisonForm.of_revise] at same
    simp only [below_erasure] at same
    simp [Node.revise, Node.fragment, Predicate.revise, predicate, comparison, Target.overrides,
      Dialect.overrides, Spanner.overrides, Spanner.ComparisonForm.comparison_eq, same, Fragment.offer]

theorem like_erased {node : Like} (settled : ∀ child ∈ node.nodes, child.Settled target) :
    Node.Settled target (.predicate (.like node)) := by
  intro scope
  obtain ⟨matched, pattern, escape, caseSensitive, negated⟩ := node
  have e : (operand target (matched.revise .erasure)).fragment = (operand target matched).fragment :=
    settled (.expr matched) List.mem_cons_self {}
  have p : (operand target (pattern.revise .erasure)).fragment = (operand target pattern).fragment :=
    settled (.expr pattern) (List.mem_cons_of_mem _ List.mem_cons_self) {}
  cases escape with
  | none =>
    obtain ⟨dialect, config⟩ := target
    cases dialect <;>
      simp [Node.revise, Node.fragment, Predicate.revise, predicate, like, optional, Target.overrides,
        Dialect.overrides, Overrides.none, Spanner.overrides, Spanner.like, e, p]
  | some escape =>
    have c : (operand target (escape.revise .erasure)).fragment = (operand target escape).fragment :=
      settled (.expr escape)
        (List.mem_cons_of_mem _ (List.mem_cons_of_mem _ (List.mem_singleton.mpr rfl))) {}
    have text (e : Expr) : (e.revise .erasure).string? = e.string? := e.string?_revise fun _ => rfl
    obtain ⟨dialect, config⟩ := target
    cases dialect <;>
      simp [Node.revise, Node.fragment, Predicate.revise, predicate, like, optional, Target.overrides,
        Dialect.overrides, Overrides.none, Spanner.overrides, Spanner.like, Pattern.escape?, text, e, p, c]

theorem junctionParts_erased {parts : List Predicate}
    (settled : ∀ p ∈ parts, Node.Settled target (.predicate p)) :
    junctionParts target (revisePredicates .erasure parts) = junctionParts target parts := by
  rw [revisePredicates_eq, each_erasure, junctionParts_eq_flatMap, junctionParts_eq_flatMap,
    List.flatMap_map, List.flatMap_def, List.flatMap_def]
  refine congrArg List.flatten (List.map_congr_left fun part mem => ?_)
  have same : predicate target (part.revise .erasure) = predicate target part := settled part mem {}
  simp only [junctionPart, Predicate.isEmpty_revise, Predicate.isSeveral_revise, same]

theorem predicate_erased {p : Predicate}
    (settled : ∀ node, (Node.predicate p).Below node → node.Settled target)
    (apart : target.dialect = .generic ∨ ¬ (Node.predicate p).Displaced) :
    Node.Settled target (.predicate p) := by
  have own (child : Node) (mem : child ∈ p.nodes) : child.Settled target :=
    settled child (Node.below_of_mem mem)
  have operands (e : Expr) (mem : Node.expr e ∈ p.nodes) :
      (operand target (e.revise .erasure)).fragment = (operand target e).fragment := own _ mem {}
  have queries (nested : Query) (mem : Node.query nested ∈ p.nodes) :
      (query target (nested.revise .erasure)).subquery = (query target nested).subquery :=
    congrArg Fragment.parens (own _ mem {})
  cases p with
  | comparison left op right => exact comparison_erased settled apart
  | like node => exact like_erased own
  | inList test values negated =>
    have v : exprs target (reviseExprs .erasure values) = exprs target values :=
      exprs_erased fun e mem => own _ (List.mem_cons_of_mem _ (List.mem_map_of_mem mem))
    have t := operands test List.mem_cons_self
    intro scope
    simp only [Node.revise, Node.fragment, Predicate.revise, predicate, below_erasure, t, v]
  | inSubquery test nested negated =>
    have t := operands test List.mem_cons_self
    have q := queries nested (List.mem_cons_of_mem _ List.mem_cons_self)
    intro scope
    simp only [Node.revise, Node.fragment, Predicate.revise, predicate, below_erasure, t, q]
  | inArray test array =>
    have t := operands test List.mem_cons_self
    have a := operands array (List.mem_cons_of_mem _ List.mem_cons_self)
    intro scope
    simp only [Node.revise, Node.fragment, Predicate.revise, predicate, below_erasure, t, a]
  | nullness tested negated =>
    have t := operands tested List.mem_cons_self
    intro scope
    simp only [Node.revise, Node.fragment, Predicate.revise, predicate, t]
  | between tested low high negated =>
    have t := operands tested List.mem_cons_self
    have l := operands low (by simp [Predicate.nodes])
    have h := operands high (by simp [Predicate.nodes])
    intro scope
    simp only [Node.revise, Node.fragment, Predicate.revise, predicate, below_erasure, t, l, h]
  | existence nested negated =>
    have q := queries nested List.mem_cons_self
    intro scope
    simp only [Node.revise, Node.fragment, Predicate.revise, predicate, q]
  | junction kind parts =>
    have same := junctionParts_erased fun part mem => own _ (List.mem_map_of_mem mem)
    intro scope
    simp only [Node.revise, Node.fragment, Predicate.revise, predicate, same]
  | negation inner =>
    have same : predicate target (inner.revise .erasure) = predicate target inner :=
      own _ List.mem_cons_self {}
    intro scope
    simp only [Node.revise, Node.fragment, Predicate.revise, predicate, same]

theorem expr_erased {e : Expr} (own : ∀ child ∈ e.nodes, child.Settled target) :
    Node.Settled target (.expr e) := by
  intro scope
  cases e with
  | star | column | parameter => rfl
  | literal value => simp only [Node.revise, Node.fragment, Expr.revise, value_erasure]
  | arithmetic left op right =>
    have l : expr target (left.revise .erasure) = expr target left := own _ List.mem_cons_self {}
    have r : expr target (right.revise .erasure) = expr target right :=
      own _ (List.mem_cons_of_mem _ List.mem_cons_self) {}
    have kept : target.overrides.arithmetic (left.revise .erasure) op (right.revise .erasure) =
        target.overrides.arithmetic left op right := by
      obtain ⟨dialect, config⟩ := target
      cases dialect with
      | generic => rfl
      | spanner =>
        funext l r
        simp only [Target.overrides, Dialect.overrides, Spanner.overrides, Spanner.arithmetic,
          ArithmeticOp.isIntegerDivision_revise]
    simp only [Node.revise, Node.fragment, Expr.revise, expr_arithmetic, arithmetic, below_erasure, l, r,
      kept]
  | function call =>
    have same := function_erased fun e mem => own _ (List.mem_map_of_mem mem)
    simp only [Node.revise, Node.fragment, Expr.revise, expr, operand, same]
  | window call partitionBy orderBy =>
    have c : function target (call.revise .erasure) = function target call :=
      function_erased fun e mem => own _ (by simp [Expr.nodes, FunctionCall.nodes, mem])
    have p : partitionItems target (reviseExprs .erasure partitionBy) = partitionItems target partitionBy :=
      partitionItems_erased fun e mem => own _ (by simp [Expr.nodes, mem])
    have o : sortItems target (reviseSorts .erasure orderBy) = sortItems target orderBy :=
      sortItems_erased fun item mem => own _
        (List.mem_append_right _ (List.mem_map_of_mem mem))
    simp only [Node.revise, Node.fragment, Expr.revise, expr, operand, below_erasure, c, p, o]
  | tuple items =>
    have same := exprs_erased fun e mem => own (.expr e) (List.mem_map_of_mem mem)
    simp only [Node.revise, Node.fragment, Expr.revise, expr, operand, same]
  | subquery quantifier nested =>
    have same : (query target (nested.revise .erasure)).subquery = (query target nested).subquery :=
      congrArg Fragment.parens (own _ List.mem_cons_self {})
    cases quantifier <;>
      simp only [Node.revise, Node.fragment, Expr.revise, expr, operand, Operand.fragment, same]
  | summarization kind groupings =>
    have same := exprs_erased fun e mem => own (.expr e) (List.mem_map_of_mem mem)
    simp only [Node.revise, Node.fragment, Expr.revise, expr, operand, same]

theorem item_erased {e : Expr} (own : Node.Settled target (.expr e)) : Node.Settled target (.item e) := by
  intro scope
  have same : expr target (e.revise .erasure) = expr target e := own {}
  obtain ⟨dialect, config⟩ := target
  cases dialect <;> cases e <;>
    simp_all [Node.revise, Node.fragment, partitionItem, standardPartitionItem, Target.overrides,
      Dialect.overrides, Overrides.none, Spanner.overrides, Spanner.partitionItem, Expr.revise]

theorem assignments_erased {items : List Assignment}
    (settled : ∀ item ∈ items, Node.Settled target (.expr item.value)) :
    assignments target (Revision.erasure.each Revision.assignment items) = assignments target items := by
  rw [each_erasure, assignments, assignments, List.map_map]
  refine congrArg (Fragment.separated ",") (List.map_congr_left fun item mem => ?_)
  have same : expr target (item.value.revise .erasure) = expr target item.value := settled item mem {}
  simp only [Function.comp_apply, Revision.assignment, same]

theorem insertSource_erased {origin : InsertSource}
    (settled : ∀ node ∈ origin.nodes, node.Settled target) :
    insertSource target (Revision.erasure.source origin) = insertSource target origin := by
  cases origin with
  | query nested => exact settled (.query nested) List.mem_cons_self {}
  | values rows =>
    have same : ∀ row ∈ rows, exprs target (reviseExprs .erasure row) = exprs target row :=
      fun row member => exprs_erased fun e mem =>
        settled _ (List.mem_flatMap_of_mem member (List.mem_map_of_mem mem))
    simp only [Revision.source, insertSource, each_erasure, List.isEmpty_map, List.map_map]
    rw [List.map_congr_left fun row member => by rw [Function.comp_apply, same row member]]

theorem restricts_erased (restriction : Option Predicate) :
    Predicate.restricts (reviseCondition .erasure restriction) = Predicate.restricts restriction :=
  Predicate.restricts_revise keeps_erasure restriction

theorem conflictClause_erased {conflict : Conflict}
    (settled : ∀ node ∈ conflict.nodes, node.Settled target) :
    conflictClause target (Revision.erasure.conflict conflict) = conflictClause target conflict := by
  obtain ⟨action, name, names, predicate⟩ := conflict
  have guard : condition target (reviseCondition .erasure predicate) = condition target predicate :=
    condition_erased fun p present =>
      settled _ (List.mem_append_right _ (List.mem_map_of_mem (Option.mem_toList.mpr present)))
  cases action with
  | doNothing => rfl
  | doUpdate items =>
    have values : assignments target (Revision.erasure.each Revision.assignment items) =
        assignments target items :=
      assignments_erased fun item mem =>
        settled _ (List.mem_append_left _ (List.mem_map_of_mem mem))
    simp only [conflictClause, Revision.conflict, Revision.action, below_erasure, restriction, values,
      guard]

theorem insert_erased {change : Insert} (settled : ∀ node ∈ change.nodes, node.Settled target) :
    Node.Settled target (.statement (.insert change)) := by
  intro scope
  obtain ⟨into, columns, origin, conflict, returned⟩ := change
  have rows : insertSource target (Revision.erasure.source origin) = insertSource target origin :=
    insertSource_erased fun node mem => settled node (List.mem_append_left _ mem)
  cases conflict with
  | none =>
    simp only [Node.revise, Node.fragment, Statement.revise, statement, insert, Option.map_none,
      below_erasure, rows]
  | some conflict =>
    have clause : conflictClause target (Revision.erasure.conflict conflict) =
        conflictClause target conflict :=
      conflictClause_erased fun node mem =>
        settled node (List.mem_append_right _ (by simpa using mem))
    have refused : Spanner.conflictRefused? (Revision.erasure.conflict conflict) =
        Spanner.conflictRefused? conflict :=
      Spanner.conflictRefused?_revise keeps_erasure conflict
    have kind : (Revision.erasure.conflict conflict).action.isUpdate = conflict.action.isUpdate :=
      conflict.action.isUpdate_revise _
    obtain ⟨dialect, config⟩ := target
    cases dialect <;>
      simp only [Node.revise, Node.fragment, Statement.revise, statement, insert, Option.map_some,
        below_erasure, rows, Fragment.ifSome, clause, Target.overrides, Dialect.overrides,
        Overrides.none, Spanner.overrides, Spanner.insertWithConflict, refused, kind]

theorem update_erased {change : Update} (settled : ∀ node ∈ change.nodes, node.Settled target) :
    Node.Settled target (.statement (.update change)) := by
  intro scope
  have values : assignments target (Revision.erasure.each Revision.assignment change.assignments) =
      assignments target change.assignments :=
    assignments_erased fun item mem => settled _ (List.mem_append_left _ (List.mem_map_of_mem mem))
  have guard : condition target (reviseCondition .erasure change.restriction) =
      condition target change.restriction :=
    condition_erased fun p present =>
      settled _ (List.mem_append_right _ (List.mem_map_of_mem (Option.mem_toList.mpr present)))
  obtain ⟨dialect, config⟩ := target
  cases dialect <;>
    simp only [Node.revise, Node.fragment, Statement.revise, statement, update, setClause,
      restriction, below_erasure, values, guard, Target.overrides, Dialect.overrides, Overrides.none,
      Spanner.overrides, Spanner.unrestricted, restricts_erased]

theorem delete_erased {change : Delete} (settled : ∀ node ∈ change.nodes, node.Settled target) :
    Node.Settled target (.statement (.delete change)) := by
  intro scope
  have guard : condition target (reviseCondition .erasure change.restriction) =
      condition target change.restriction :=
    condition_erased fun p present =>
      settled _ (List.mem_map_of_mem (Option.mem_toList.mpr present))
  obtain ⟨dialect, config⟩ := target
  cases dialect <;>
    simp only [Node.revise, Node.fragment, Statement.revise, statement, delete, restriction, guard,
      Target.overrides, Dialect.overrides, Overrides.none, Spanner.overrides, Spanner.unrestricted,
      restricts_erased]

/-- Without a displaced comparison in it, every node is written as before. -/
theorem node_erased (node : Node)
    (apart : target.dialect = .generic ∨ ∀ inner, node.Within inner → ¬ inner.Displaced) :
    node.Settled target := by
  induction node using Node.induction with
  | step node ih =>
    have below (inner : Node) (lower : node.Below inner) : inner.Settled target :=
      ih inner lower <| apart.imp_right fun apart deeper within =>
        apart deeper (lower.to_reflTransGen.trans within)
    have own (child : Node) (mem : child ∈ node.children) : child.Settled target :=
      below child (Node.below_of_mem mem)
    cases node with
    | statement change =>
      cases change with
      | select nested => exact fun _ => own (.query nested) List.mem_cons_self {}
      | insert change => exact insert_erased own
      | update change => exact update_erased own
      | delete change => exact delete_erased own
    | query nested => exact query_inScope_erased own
    | group from_ => exact fun _ => group_erased own
    | table from_ => exact fun _ => table_erased own
    | predicate p => exact predicate_erased below (apart.imp_right fun apart => apart _ .refl)
    | expr e => exact expr_erased own
    | item e => exact item_erased (own (.expr e) List.mem_cons_self)

end Render

/-- A statement is written like the one without its predicates that restrict nothing, or fails for the
same cause. The exception is a displaced comparison in a dialect that takes comparisons apart. -/
theorem Statement.render_erased (statement : Statement) (target : Target)
    (apart : target.dialect = .generic ∨
      ∀ node, (Node.statement statement).Within node → ¬ node.Displaced) :
    statement.erased.render target = statement.render target := by
  have same : Render.statement target statement.erased = Render.statement target statement :=
    Render.node_erased (.statement statement) apart {}
  rw [render, render, same]

/-- A deletion whose restriction is the negation of nothing. -/
theorem Statement.render_erased_negation :
    let statement : Statement := .delete ⟨{ table := "t" }, some (.negation (.junction .or [])), []⟩
    (∀ node, (Node.statement statement).Within node → ¬ node.Displaced) ∧
      statement.erased.render ⟨.spanner, .spanner⟩ = statement.render ⟨.spanner, .spanner⟩ := by
  intro statement
  have apart (node : Node) (within : (Node.statement statement).Within node) : ¬ node.Displaced := by
    rcases within.cases_head with rfl | ⟨child, mem, within⟩
    · exact id
    cases List.mem_singleton.mp mem
    rcases within.cases_head with rfl | ⟨child, mem, within⟩
    · exact id
    cases List.mem_singleton.mp mem
    rcases within.cases_head with rfl | ⟨child, mem, within⟩
    · exact id
    · exact absurd mem List.not_mem_nil
  exact ⟨apart, statement.render_erased ⟨.spanner, .spanner⟩ (.inr apart)⟩

/-- `select * from t where (a, b) = (select x, y from s having …)`, with an empty having condition. -/
def Statement.displacing : Statement :=
  let column (name : String) : Expr := .column { name }
  let nested : Query := { Query.empty with
    selections := [⟨column "x", none⟩, ⟨column "y", none⟩]
    sources := [⟨.named { table := "s" }, []⟩]
    having := some (.junction .and []) }
  .select { Query.empty with
    selections := [⟨.star, none⟩]
    sources := [⟨.named { table := "t" }, []⟩]
    restriction := some (.comparison (.tuple [column "a", column "b"]) .eq (.subquery .one nested)) }

/-- The empty having condition makes a having condition of the comparison. -/
theorem Statement.displacing_render :
    let target : Target := ⟨.spanner, .spanner⟩
    (displacing.render target).map (·.sql) =
        .ok "select * from t where exists (select 1 from s having (x=a and y=b))" ∧
      (displacing.erased.render target).map (·.sql) =
        .ok "select * from t where exists (select 1 from s where (x=a and y=b))" ∧
      displacing.erased.render target ≠ displacing.render target := by
  refine ⟨rfl, rfl, fun same => ?_⟩
  have texts : "select * from t where exists (select 1 from s where (x=a and y=b))" =
      "select * from t where exists (select 1 from s having (x=a and y=b))" :=
    Except.ok.inj (congrArg (Except.map Rendering.sql) same)
  exact absurd texts (by decide)

end PortableSql
