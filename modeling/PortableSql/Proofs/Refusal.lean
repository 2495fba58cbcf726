import PortableSql.Proofs.Failure
import PortableSql.Proofs.Visit

/-! Which statements a dialect refuses.

Writing a statement fails if and only if it comes to a node that the dialect refuses
(`Statement.render_fails_iff`). The generic dialect refuses nothing; what Spanner refuses is listed here
(`Spanner.Refuses`). The failures are traced one step of a visit at a time (`Render.node_fails`), and
the whole visit by induction.
-/

set_option autoImplicit false

namespace PortableSql

/-- The nodes that Spanner has no form for. -/
inductive Spanner.Refuses : Node → Prop
  | summarization (kind : SummarizationKind) (groupings : List Expr) :
    Refuses (.item (.summarization kind groupings))
  | escape (node : Like) (escape : Expr) (present : node.escape = some escape)
    (form : ∀ c : Char, escape.string? ≠ some (String.singleton c)) : Refuses (.predicate (.like node))
  | pattern (node : Like) (escape : Expr) (c : Char) (present : node.escape = some escape)
    (form : escape.string? = some (String.singleton c)) (other : c ≠ '\\')
    (pattern : node.pattern.string? = none) : Refuses (.predicate (.like node))
  | queryNames (table : DerivedTable) (nested : Query) (source : table.source = .query nested)
    (named : table.columnNames ≠ [])
    (mismatch : (∃ selection ∈ nested.selections, selection.expr = .star) ∨
      nested.selections.length ≠ table.columnNames.length) : Refuses (.table (.derived table))
  | functionNames (table : DerivedTable) (call : FunctionCall) (source : table.source = .function call)
    (named : table.columnNames ≠ [])
    (mismatch : table.columnNames.length ≠ 1 ∨ call.name.toLower ≠ "unnest") :
    Refuses (.table (.derived table))
  | conflict (change : Insert) (clause : Conflict) (present : change.conflict = some clause)
    (specific : clause.constraintName ≠ none ∨ clause.constraintColumns ≠ [] ∨
      Predicate.restricts clause.predicate = true) : Refuses (.statement (.insert change))
  | rows (left right : List Expr) (op : ComparisonOp) (comparable : op.isDistinctness = false)
    (mismatch : left.length ≠ right.length ∨ left = [] ∧ right = []) :
    Refuses (.predicate (.comparison (.tuple left) op (.tuple right)))
  | subquery (row : List Expr) (op : ComparisonOp) (quantifier : Quantifier) (nested : Query)
    (comparable : op.isDistinctness = false)
    (membership : ¬ (op = .eq ∧ quantifier = .any ∨ op = .ne ∧ quantifier = .every))
    (mismatch : nested.fetch ≠ none ∨ nested.offset ≠ none ∨ nested.selections.length ≠ row.length ∨
      nested.selections = [] ∧ row = []) :
    Refuses (.predicate (.comparison (.tuple row) op (.subquery quantifier nested)))

def Dialect.Refuses : Dialect → Node → Prop
  | .generic, _ => False
  | .spanner, node => Spanner.Refuses node

/-- Whether a comparison has rows that do not fit each other, or a query whose rows are cut off. -/
def Spanner.ComparisonForm.Refused : ComparisonForm → Prop
  | .rows left right _ => left.length ≠ right.length ∨ left = [] ∧ right = []
  | .existence row nested _ _ =>
    nested.fetch ≠ none ∨ nested.offset ≠ none ∨ nested.selections.length ≠ row.length ∨
      nested.selections = [] ∧ row = []
  | _ => False

def Spanner.ComparisonForm.Comparable : ComparisonForm → Prop
  | .rows _ _ op | .existence _ _ op _ => op.isDistinctness = false
  | _ => True

/-- Only a match or a comparison may be refused for what it is. -/
def Predicate.mayBeRefused : Predicate → Bool
  | .like _ | .comparison _ _ _ => true
  | _ => false

/-- Whether writing a node fails. -/
def Node.Fails (target : Target) (node : Node) : Prop :=
  (node.fragment target {}).Fails

theorem Expr.isStar_iff (e : Expr) : e.isStar = true ↔ e = .star := by
  cases e <;> simp [Expr.isStar]

theorem exists_mem_flatMap {α β : Type} {list : List α} {f : α → List β} {p : β → Prop} :
    (∃ b ∈ list.flatMap f, p b) ↔ ∃ a ∈ list, ∃ b ∈ f a, p b := by
  grind

namespace Render

variable (target : Target)

theorem exprs_fails (items : List Expr) :
    (∃ item ∈ exprs target items, item.Fails) ↔ ∃ node ∈ items.map Node.expr, node.Fails target := by
  simp [exprs_eq_map, Node.Fails, Node.fragment]

theorem exprs_length (items : List Expr) : (exprs target items).length = items.length := by
  simp [exprs_eq_map]

theorem exprs_eq_nil (items : List Expr) : exprs target items = [] ↔ items = [] := by
  simp [exprs_eq_map]

theorem partitionItems_fails (items : List Expr) :
    (∃ item ∈ partitionItems target items, item.Fails) ↔
      ∃ node ∈ items.map Node.item, node.Fails target := by
  simp [partitionItems_eq_map, Node.Fails, Node.fragment]

theorem sortItems_fails (items : List SortItem) :
    (∃ item ∈ sortItems target items, item.Fails) ↔
      ∃ node ∈ items.map (Node.expr ·.expr), node.Fails target := by
  simp [sortItems_eq_map, Node.Fails, Node.fragment]

theorem selectionList_fails (selections : List Selection) :
    (∃ selection ∈ selectionList target selections, selection.1.Fails) ↔
      ∃ node ∈ selections.map (Node.expr ·.expr), node.Fails target := by
  simp [selectionList_eq_map, Node.Fails, Node.fragment]

theorem groups_fails (sources : List TableGroup) :
    (∃ source ∈ groups target sources, source.Fails) ↔
      ∃ node ∈ sources.map Node.group, node.Fails target := by
  simp [groups_eq_map, Node.Fails, Node.fragment]

theorem condition_fails (restriction : Option Predicate) :
    (∃ condition, Render.condition target restriction = some condition ∧ condition.Fails) ↔
      ∃ node ∈ Predicate.visited restriction, node.Fails target := by
  rw [condition_eq_map, Predicate.visited]
  cases Predicate.effective? restriction <;> simp [Node.Fails, Node.fragment]

theorem optional_fails (value : Option Expr) :
    (∃ fragment, Render.optional target value = some fragment ∧ fragment.Fails) ↔
      ∃ node ∈ value.toList.map Node.expr, node.Fails target := by
  cases value <;> simp [Render.optional_eq_map, Node.Fails, Node.fragment]

theorem query_fails (nested : Query) (scope : Scope) :
    ((query target nested).inScope scope).Fails ↔ ∃ node ∈ nested.visits, node.Fails target := by
  rw [query_inScope, queryInScope_fails, query_parts]
  simp only [selectionList_fails, groups_fails, condition_fails, partitionItems_fails, sortItems_fails,
    optional_fails, Query.visits, Query.core, List.mem_append, or_and_right, exists_or, or_assoc]

theorem joins_fails (joined : List Join) :
    (joins target joined).Fails ↔ ∃ node ∈ joined.flatMap Join.visits, node.Fails target := by
  induction joined with
  | nil => simp [joins]
  | cons j rest ih =>
    simp only [joins_cons, Fragment.fails_append, join_fails, condition_fails, ih, List.flatMap_cons,
      List.mem_append, or_and_right, exists_or, Join.visits, List.exists_mem_cons_iff]
    rfl

theorem group_fails (from_ : TableGroup) :
    (group target from_).Fails ↔ ∃ node ∈ from_.visits, node.Fails target := by
  simp only [group, Fragment.fails_append, joins_fails, TableGroup.visits, List.exists_mem_cons_iff]
  rfl

theorem function_fails (call : FunctionCall) :
    (function target call).Fails ↔ ∃ node ∈ call.nodes, node.Fails target := by
  obtain ⟨name, args, returnType⟩ := call
  simp only [function, functionOf_fails, exprs_fails, FunctionCall.nodes]

theorem expr_fails (e : Expr) : (expr target e).Fails ↔ ∃ node ∈ e.nodes, node.Fails target := by
  cases e with
  | star | literal | column | parameter => simp [expr, operand, Operand.fragment, Expr.nodes]
  | arithmetic left op right =>
    rw [expr_arithmetic, arithmetic_fails]
    simp [Expr.nodes, Node.Fails, Node.fragment]
  | function call => exact function_fails target call
  | window call partitionBy orderBy =>
    simp only [expr, operand, Operand.fragment, window_fails, function_fails, partitionItems_fails,
      sortItems_fails, Expr.nodes, List.mem_append, or_and_right, exists_or, or_assoc]
  | tuple items => simp only [expr, operand, Operand.fragment, Fragment.fails_parens,
      Fragment.fails_separated, exprs_fails, Expr.nodes]
  | subquery quantifier nested =>
    cases quantifier <;>
      simp [expr, operand, Operand.fragment, RenderedQuery.subquery, Expr.nodes, Node.Fails, Node.fragment]
  | summarization kind groupings =>
    simp only [expr, operand, Operand.fragment, functionOf_fails, exprs_fails, Expr.nodes]

theorem namesRefused?_isSome (nested : Query) (names : List String) :
    (nested.namesRefused? names).isSome = true ↔
      names ≠ [] ∧ ((∃ selection ∈ nested.selections, selection.expr = .star) ∨
        nested.selections.length ≠ names.length) := by
  rw [Query.namesRefused?]
  split
  · simp_all
  · split
    · simp_all [Expr.isStar_iff]
    · split <;> simp_all [Expr.isStar_iff]

theorem derivedQuery_fails (nested : Query) (aliasName : String) (names : List String) (lateral : Bool) :
    (table target (.derived ⟨.query nested, aliasName, names, lateral⟩)).Fails ↔
      target.dialect.Refuses (.table (.derived ⟨.query nested, aliasName, names, lateral⟩)) ∨
        (Node.query nested).Fails target := by
  have inner (scope : Scope) :
      ((query target nested).inScope scope).Fails ↔ (Node.query nested).Fails target := by
    rw [Node.Fails, Node.fragment, query_fails, query_fails]
  obtain ⟨dialect, config⟩ := target
  cases dialect with
  | generic =>
    simp [table, source, derivedTable, queryPart, derivedAlias, Target.overrides, Dialect.overrides,
      Overrides.none, RenderedQuery.subquery, DerivedTable.aliasFragment, Dialect.Refuses, inner]
  | spanner =>
    have refused : Spanner.Refuses (.table (.derived ⟨.query nested, aliasName, names, lateral⟩)) ↔
        (nested.namesRefused? names).isSome = true := by
      rw [namesRefused?_isSome]
      constructor
      · rintro (_ | _ | _ | ⟨_, _, ⟨⟩, named, mismatch⟩ | ⟨_, _, ⟨⟩⟩)
        exact ⟨named, mismatch⟩
      · rintro ⟨named, mismatch⟩
        exact .queryNames _ nested rfl named mismatch
    rw [Dialect.Refuses, refused]
    cases cause : nested.namesRefused? names <;> cases lateral <;>
      simp [table, source, derivedTable, queryPart, derivedAlias, Target.overrides, Dialect.overrides,
        Spanner.overrides, Spanner.derivedTable, Spanner.derivedAlias, RenderedQuery.renamed,
        DerivedTable.aliasFragment, cause, inner]

theorem derivedFunction_fails (call : FunctionCall) (aliasName : String) (names : List String)
    (lateral : Bool) :
    (table target (.derived ⟨.function call, aliasName, names, lateral⟩)).Fails ↔
      target.dialect.Refuses (.table (.derived ⟨.function call, aliasName, names, lateral⟩)) ∨
        ∃ node ∈ call.nodes, node.Fails target := by
  obtain ⟨dialect, config⟩ := target
  cases dialect with
  | generic =>
    simp [table, source, derivedTable, derivedAlias, Target.overrides, Dialect.overrides,
      Overrides.none, DerivedTable.aliasFragment, Dialect.Refuses, function_fails]
  | spanner =>
    have refused : Spanner.Refuses (.table (.derived ⟨.function call, aliasName, names, lateral⟩)) ↔
        (Spanner.functionAlias call ⟨.function call, aliasName, names, lateral⟩).Fails := by
      constructor
      · rintro (_ | _ | _ | ⟨_, _, ⟨⟩⟩ | ⟨_, _, ⟨⟩, named, mismatch⟩)
        cases names with
        | nil => contradiction
        | cons column others =>
          cases others with
          | nil => simp_all [Spanner.functionAlias]
          | cons => simp [Spanner.functionAlias]
      · intro fails
        refine .functionNames _ call rfl ?_ ?_
        · rintro rfl
          simp [Spanner.functionAlias, DerivedTable.aliasFragment] at fails
        · cases names with
          | nil => simp
          | cons column others =>
            cases others with
            | nil =>
              refine .inr fun same => ?_
              simp [Spanner.functionAlias, same] at fails
            | cons => simp
    rw [Dialect.Refuses, refused]
    cases lateral <;>
      simp [table, source, derivedTable, derivedAlias, Target.overrides, Dialect.overrides,
        Spanner.overrides, Spanner.derivedTable, Spanner.derivedAlias, function_fails, or_comm]

theorem table_fails (from_ : TableRef) :
    (table target from_).Fails ↔
      target.dialect.Refuses (.table from_) ∨ ∃ node ∈ from_.nodes, node.Fails target := by
  match from_ with
  | .named named =>
    have refused : ¬ target.dialect.Refuses (.table (.named named)) := by
      cases target.dialect <;> nofun
    simp [table, refused, TableRef.nodes]
  | .derived ⟨.query nested, aliasName, names, lateral⟩ =>
    simp [derivedQuery_fails, TableRef.nodes]
  | .derived ⟨.function call, aliasName, names, lateral⟩ =>
    simp [derivedFunction_fails, TableRef.nodes]

theorem item_fails (e : Expr) :
    (partitionItem target e (expr target e)).Fails ↔
      target.dialect.Refuses (.item e) ∨ (Node.expr e).Fails target := by
  obtain ⟨dialect, config⟩ := target
  cases dialect with
  | generic =>
    cases e <;>
      simp [partitionItem, standardPartitionItem, Target.overrides, Dialect.overrides, Overrides.none,
        Dialect.Refuses, Node.Fails, Node.fragment, expr, operand, Operand.fragment]
  | spanner =>
    have refused : Spanner.Refuses (.item e) ↔ ∃ kind groupings, e = .summarization kind groupings := by
      constructor
      · rintro ⟨kind, groupings⟩
        exact ⟨kind, groupings, rfl⟩
      · rintro ⟨kind, groupings, rfl⟩
        exact .summarization kind groupings
    rw [Dialect.Refuses, refused]
    cases e <;>
      simp [partitionItem, standardPartitionItem, Target.overrides, Dialect.overrides,
        Spanner.overrides, Spanner.partitionItem, Node.Fails, Node.fragment, expr, operand,
        Operand.fragment]

theorem escape?_eq_some {escape : Expr} {c : Char} :
    Pattern.escape? escape = some c ↔ escape.string? = some (String.singleton c) := by
  rw [Pattern.escape?]
  cases escape.string? with
  | none => simp
  | some text =>
    have single : text = String.singleton c ↔ text.toList = [c] := by
      rw [← String.toList_inj, String.toList_singleton]
    simp only [Option.some.injEq, single]
    generalize text.toList = characters
    rcases characters with _ | ⟨first, _ | ⟨second, rest⟩⟩ <;> simp

theorem refuses_like {node : Like} :
    Spanner.Refuses (.predicate (.like node)) ↔
      ∃ escape, node.escape = some escape ∧ (Pattern.escape? escape = none ∨
        ∃ c, Pattern.escape? escape = some c ∧ c ≠ '\\' ∧ node.pattern.string? = none) := by
  simp only [Option.eq_none_iff_forall_ne_some (o := Pattern.escape? _), ne_eq, escape?_eq_some]
  constructor
  · rintro (_ | ⟨_, escape, present, form⟩ | ⟨_, escape, c, present, form, other, pattern⟩)
    · exact ⟨escape, present, .inl form⟩
    · exact ⟨escape, present, .inr ⟨c, form, other, pattern⟩⟩
  · rintro ⟨escape, present, form | ⟨c, form, other, pattern⟩⟩
    · exact .escape node escape present form
    · exact .pattern node escape c present form other pattern

theorem like_fails (node : Like) :
    (predicate target (.like node)).Fails ↔
      target.dialect.Refuses (.predicate (.like node)) ∨
        ∃ inner ∈ (Predicate.like node).visits target.dialect, inner.Fails target := by
  obtain ⟨matched, pattern, escape, caseSensitive, negated⟩ := node
  obtain ⟨dialect, config⟩ := target
  cases dialect with
  | generic =>
    cases escape <;>
      simp [predicate, like, Pattern.standard, Pattern.escapeClause, Target.overrides,
        Dialect.overrides, Overrides.none, Dialect.Refuses, Predicate.visits, Like.nodes, Node.Fails,
        Node.fragment, expr, Render.optional, or_assoc]
  | spanner =>
    have written (caseSensitive : Bool) (first second : Fragment) :
        (Pattern.unescaped config caseSensitive negated first second).Fails ↔
          first.Fails ∨ second.Fails := by
      cases caseSensitive <;>
        simp [Pattern.unescaped, Pattern.standard, Pattern.lowered, Pattern.escapeClause]
    simp only [Dialect.Refuses, refuses_like, predicate, like, Target.overrides, Dialect.overrides,
      Spanner.overrides, Fragment.fails_offer, Predicate.visits, List.exists_mem_cons_iff, Node.Fails,
      Node.fragment, expr, List.not_mem_nil, false_and, exists_false, or_false]
    cases escape with
    | none =>
      cases caseSensitive with
      | true => simp [Spanner.like, Render.optional, Pattern.standard, Pattern.escapeClause]
      | false => simp [Spanner.like, written]
    | some escape =>
      cases read : Pattern.escape? escape with
      | none => simp [Spanner.like, read]
      | some c =>
        by_cases backslash : c = '\\'
        · simp [Spanner.like, read, backslash, written]
        · cases text : pattern.string? with
          | none => simp [Spanner.like, read, backslash, text]
          | some words =>
            obtain rfl := Expr.string?_eq_some.mp text
            simp [Spanner.like, read, backslash, Expr.string?, written, operand, Operand.fragment]

theorem rowComparison_fails {op : ComparisonOp} (comparable : op.isDistinctness = false)
    (left right : List Fragment) :
    (rowComparison target left right op).Fails ↔
      (left.length ≠ right.length ∨ left = [] ∧ right = []) ∨
        (∃ l ∈ left, l.Fails) ∨ ∃ r ∈ right, r.Fails := by
  obtain ⟨dialect, config⟩ := target
  cases dialect <;>
    simp [rowComparison, Target.overrides, Dialect.overrides, Overrides.none, Spanner.overrides,
      RowValue.expand_fails comparable]

theorem existence_fails (row : List Expr) (nested : Query) {op : ComparisonOp}
    (comparable : op.isDistinctness = false) (negated : Bool) :
    ((Spanner.ComparisonForm.existence row nested op negated).fragment target).Fails ↔
      (Spanner.ComparisonForm.existence row nested op negated).Refused ∨
      ∃ node ∈ (Spanner.ComparisonForm.existence row nested op negated).visits, node.Fails target := by
  have inverse : op.invert.isDistinctness = false := by cases op <;> trivial
  have selected : (∃ l ∈ (selectionList target nested.selections).map Prod.fst, l.Fails) ↔
      ∃ node ∈ nested.selections.map (Node.expr ·.expr), node.Fails target := by
    rw [← selectionList_fails]
    simp
  have length : ((selectionList target nested.selections).map Prod.fst).length =
      nested.selections.length := by
    simp [selectionList_fst]
  have compared : (rowComparison target ((selectionList target nested.selections).map Prod.fst)
        (exprs target row) op.invert).Fails ↔
      (nested.selections.length ≠ row.length ∨ nested.selections = [] ∧ row = []) ∨
        (∃ node ∈ nested.selections.map (Node.expr ·.expr), node.Fails target) ∨
        ∃ node ∈ row.map Node.expr, node.Fails target := by
    rw [rowComparison_fails target inverse, selected, exprs_fails, exprs_length, exprs_eq_nil, length,
      List.map_eq_nil_iff, selectionList_eq_map, List.map_eq_nil_iff]
  rw [Spanner.ComparisonForm.fragment, RowValue.existence_fails, query_parts]
  · simp only [groups_fails, condition_fails, partitionItems_fails, compared, optional_eq_map,
      Option.isSome_map, Option.isSome_iff_ne_none, Spanner.ComparisonForm.Refused,
      Spanner.ComparisonForm.visits, Query.core, List.mem_append, or_and_right, exists_or, or_assoc,
      or_left_comm]
  · rw [query_parts]
    intro _ absent
    have none : nested.having = none := by simpa using absent
    rw [none]
    rfl

theorem form_fails {form : Spanner.ComparisonForm} (comparable : form.Comparable) :
    (form.fragment target).Fails ↔ form.Refused ∨ ∃ node ∈ form.visits, node.Fails target := by
  have selected (e : Expr) : (operand target e).selected.Fails ↔ (expr target e).Fails := by
    cases e <;> simp [operand, Operand.selected, expr, Operand.fragment]
  cases form with
  | membership left nested negated =>
    simp [Spanner.ComparisonForm.fragment, Spanner.ComparisonForm.Refused, Spanner.ComparisonForm.visits,
      RenderedQuery.subquery, Node.Fails, Node.fragment]
  | intersection left right negated =>
    simp [Spanner.ComparisonForm.fragment, Spanner.ComparisonForm.Refused, Spanner.ComparisonForm.visits,
      RowValue.intersection, Node.Fails, Node.fragment, selected]
  | rows left right op =>
    simp only [Spanner.ComparisonForm.fragment, rowComparison_fails target comparable, exprs_fails,
      Spanner.ComparisonForm.Refused, Spanner.ComparisonForm.visits, List.mem_append, or_and_right,
      exists_or, exprs_length, exprs_eq_nil]
  | existence row nested op negated => exact existence_fails target row nested comparable negated
  | native left op right =>
    simp [Spanner.ComparisonForm.fragment, Spanner.ComparisonForm.Refused, Spanner.ComparisonForm.visits,
      Node.Fails, Node.fragment]

theorem of_comparable (left : Expr) (op : ComparisonOp) (right : Expr) :
    (Spanner.ComparisonForm.of left op right).Comparable := by
  refine Spanner.ComparisonForm.of_cases left op right (motive := Spanner.ComparisonForm.Comparable)
    trivial (fun _ _ _ => trivial) ?existence ?rows trivial
  case existence =>
    rintro row quantifier nested rfl rfl comparable _
    cases quantifier <;> cases op <;> trivial
  case rows =>
    rintro row others rfl rfl comparable
    exact comparable

theorem refuses_comparison {left : Expr} {op : ComparisonOp} {right : Expr} :
    Spanner.Refuses (.predicate (.comparison left op right)) ↔
      (Spanner.ComparisonForm.of left op right).Refused := by
  constructor
  · intro refused
    cases refused with
    | rows left right _ comparable mismatch =>
      have form : Spanner.ComparisonForm.of (.tuple left) op (.tuple right) = .rows left right op := by
        simp [Spanner.ComparisonForm.of, comparable]
      exact form ▸ mismatch
    | subquery row _ quantifier nested comparable membership mismatch =>
      have form : Spanner.ComparisonForm.of (.tuple row) op (.subquery quantifier nested) =
          .existence row nested (quantifier.existenceOp op).1 (quantifier.existenceOp op).2 := by
        simp [Spanner.ComparisonForm.of, comparable, membership]
      exact form ▸ mismatch
  · refine Spanner.ComparisonForm.of_cases left op right
      (motive := fun form => form.Refused → Spanner.Refuses (.predicate (.comparison left op right)))
      False.elim (fun _ _ _ => False.elim) ?existence ?rows False.elim
    case existence =>
      rintro row quantifier nested rfl rfl comparable membership
      exact .subquery row op quantifier nested comparable membership
    case rows =>
      rintro row others rfl rfl comparable
      exact .rows row others op comparable

theorem comparison_fails (left : Expr) (op : ComparisonOp) (right : Expr) :
    (predicate target (.comparison left op right)).Fails ↔
      target.dialect.Refuses (.predicate (.comparison left op right)) ∨
        ∃ inner ∈ (Predicate.comparison left op right).visits target.dialect, inner.Fails target := by
  obtain ⟨dialect, config⟩ := target
  cases dialect with
  | generic =>
    simp [predicate, comparison, Target.overrides, Dialect.overrides, Overrides.none,
      Dialect.Refuses, RowValue.native, Predicate.visits, Node.Fails, Node.fragment, expr]
  | spanner =>
    rw [Dialect.Refuses, refuses_comparison, Predicate.visits, ← form_fails _ (of_comparable left op right)]
    simp [predicate, comparison, Target.overrides, Dialect.overrides, Spanner.overrides,
      Spanner.ComparisonForm.comparison_eq]

theorem predicate_fails (p : Predicate) :
    (predicate target p).Fails ↔
      target.dialect.Refuses (.predicate p) ∨ ∃ node ∈ p.visits target.dialect, node.Fails target := by
  have apart (plain : p.mayBeRefused = false) : ¬ target.dialect.Refuses (.predicate p) := by
    cases target.dialect with
    | generic => exact id
    | spanner =>
      intro refused
      cases refused with
      | escape | pattern | rows | subquery => exact Bool.noConfusion plain
  cases p with
  | comparison left op right => exact comparison_fails target left op right
  | like node => exact like_fails target node
  | inList test values negated =>
    cases values <;>
      simp [apart rfl, predicate, Predicate.visits, Predicate.nodes, exprs_eq_map,
        Node.Fails, Node.fragment, expr]
  | inSubquery test nested negated =>
    simp [apart rfl, predicate, Predicate.visits, Predicate.nodes, Node.Fails, Node.fragment, expr,
      RenderedQuery.subquery]
  | inArray test array =>
    simp [apart rfl, predicate, Predicate.visits, Predicate.nodes, Node.Fails, Node.fragment, expr]
  | nullness tested negated =>
    simp [apart rfl, predicate, Predicate.visits, Predicate.nodes, Node.Fails, Node.fragment, expr]
  | between tested low high negated =>
    simp [apart rfl, predicate, Predicate.visits, Predicate.nodes, Node.Fails, Node.fragment, expr, or_assoc]
  | existence nested negated =>
    simp [apart rfl, predicate, Predicate.visits, Predicate.nodes, Node.Fails, Node.fragment,
      RenderedQuery.subquery]
  | junction kind parts =>
    have part (p : Predicate) : (∃ fragment ∈ junctionPart p (predicate target p), fragment.Fails) ↔
        p.isEmpty = false ∧ (predicate target p).Fails := by
      rw [junctionPart]
      split
      · simp_all
      · split <;> simp_all
    have parts_fail : (∃ fragment ∈ junctionParts target parts, fragment.Fails) ↔
        ∃ part ∈ parts, part.isEmpty = false ∧ (predicate target part).Fails := by
      simp only [junctionParts_eq_flatMap, exists_mem_flatMap, part]
    simp [apart rfl, predicate, parts_fail, Predicate.visits, Node.Fails, Node.fragment, and_assoc]
  | negation inner =>
    simp [apart rfl, predicate, Predicate.visits, Predicate.nodes, Node.Fails, Node.fragment]

@[simp] theorem dmlTarget_fails (clause : Option Clause) (table : NamedTable) :
    ¬ (dmlTarget target clause table).Fails := by
  obtain ⟨dialect, config⟩ := target
  cases dialect <;>
    simp [dmlTarget, standardDmlTarget, Target.overrides, Dialect.overrides, Overrides.none,
      Spanner.overrides, Spanner.dmlTarget]

@[simp] theorem returning_fails (columns : List ColumnRef) : ¬ (returning columns).Fails := by
  simp [returning]

theorem assignments_fails (items : List Assignment) :
    (assignments target items).Fails ↔ ∃ node ∈ items.map (Node.expr ·.value), node.Fails target := by
  simp [assignments, Node.Fails, Node.fragment]

theorem insertSource_fails (origin : InsertSource) :
    (insertSource target origin).Fails ↔ ∃ node ∈ origin.nodes, node.Fails target := by
  cases origin with
  | query nested => simp [insertSource, InsertSource.nodes, Node.Fails, Node.fragment]
  | values rows =>
    have row (items : List Expr) : (Fragment.parens (.separated "," (exprs target items))).Fails ↔
        ∃ node ∈ items.map Node.expr, node.Fails target := by
      rw [Fragment.fails_parens, Fragment.fails_separated, exprs_fails]
    cases rows with
    | nil => simp [insertSource, InsertSource.nodes]
    | cons first rest =>
      simp only [insertSource, InsertSource.nodes, List.isEmpty_cons, Bool.false_eq_true, if_false,
        Fragment.fails_inClause, Fragment.fails_append, Fragment.fails_text, false_or,
        Fragment.fails_separated, List.mem_map, exists_exists_and_eq_and, row, exists_mem_flatMap]

theorem conflictClause_fails (conflict : Conflict) :
    (conflictClause target conflict).Fails ↔ ∃ node ∈ conflict.visits, node.Fails target := by
  obtain ⟨action, name, names, predicate⟩ := conflict
  have words : ¬ (constraint name names).Fails := by
    cases name <;> simp [constraint]
  cases action with
  | doNothing => simp [conflictClause, Conflict.visits, words]
  | doUpdate items =>
    simp [conflictClause, Conflict.visits, words, assignments_fails, restriction, condition_fails,
      or_and_right, exists_or]

theorem refuses_insert {change : Insert} :
    Spanner.Refuses (.statement (.insert change)) ↔
      ∃ clause, change.conflict = some clause ∧ (Spanner.conflictRefused? clause).isSome = true := by
  have refused (clause : Conflict) : (Spanner.conflictRefused? clause).isSome = true ↔
      clause.constraintName ≠ none ∨ clause.constraintColumns ≠ [] ∨
        Predicate.restricts clause.predicate = true := by
    rw [Spanner.conflictRefused?]
    split
    · simp_all [Option.isSome_iff_ne_none]
    · split
      · simp_all
      · split <;> simp_all
  simp only [refused]
  constructor
  · rintro (_ | _ | _ | _ | _ | ⟨_, clause, present, specific⟩)
    exact ⟨clause, present, specific⟩
  · rintro ⟨clause, present, specific⟩
    exact .conflict change clause present specific

theorem insert_fails (change : Insert) :
    (insert target change).Fails ↔
      target.dialect.Refuses (.statement (.insert change)) ∨
        ∃ node ∈ (Statement.insert change).visits target.dialect, node.Fails target := by
  obtain ⟨dialect, config⟩ := target
  cases dialect with
  | generic =>
    cases present : change.conflict with
    | none => simp [insert, present, Dialect.Refuses, Statement.visits, insertSource_fails]
    | some clause =>
      simp [insert, present, Dialect.Refuses, Statement.visits, insertSource_fails,
        conflictClause_fails, Target.overrides, Dialect.overrides, Overrides.none, or_and_right, exists_or]
  | spanner =>
    rw [Dialect.Refuses, refuses_insert]
    cases present : change.conflict with
    | none => simp [insert, present, Statement.visits, insertSource_fails]
    | some clause =>
      cases refused : Spanner.conflictRefused? clause <;>
        simp [insert, present, Statement.visits, insertSource_fails, Target.overrides, Dialect.overrides,
          Spanner.overrides, Spanner.insertWithConflict, refused]

/-- The condition that always holds stands where no node is visited. -/
theorem unrestricted_fails (construct : Construct) (guard : Option Predicate) (head columns : Fragment) :
    (Fragment.offer construct (Spanner.unrestricted guard head columns)
        (head ++ restriction target .restriction " where " guard ++ columns)).Fails ↔
      head.Fails ∨ (∃ node ∈ Predicate.visited guard, node.Fails target) ∨ columns.Fails := by
  rw [Spanner.unrestricted]
  split
  · simp [restriction, condition_fails, or_assoc]
  · next unrestricted =>
    have absent : Predicate.effective? guard = none := by
      simpa [Predicate.restricts] using unrestricted
    simp [Predicate.visited, absent]

theorem update_fails (change : Update) :
    (update target change).Fails ↔
      ∃ node ∈ (Statement.update change).visits target.dialect, node.Fails target := by
  obtain ⟨dialect, config⟩ := target
  cases dialect with
  | generic =>
    simp [update, updateClause, setClause, assignments_fails, restriction, condition_fails,
      Statement.visits, Target.overrides, Dialect.overrides, Overrides.none, or_and_right, exists_or]
  | spanner =>
    simp only [update, Target.overrides, Dialect.overrides, Spanner.overrides, unrestricted_fails]
    simp [updateClause, setClause, assignments_fails, Statement.visits, or_and_right, exists_or]

theorem delete_fails (change : Delete) :
    (delete target change).Fails ↔
      ∃ node ∈ (Statement.delete change).visits target.dialect, node.Fails target := by
  obtain ⟨dialect, config⟩ := target
  cases dialect with
  | generic =>
    simp [delete, deleteClause, restriction, condition_fails, Statement.visits, Target.overrides,
      Dialect.overrides, Overrides.none]
  | spanner =>
    simp only [delete, Target.overrides, Dialect.overrides, Spanner.overrides, unrestricted_fails]
    simp [deleteClause, Statement.visits]

theorem statement_fails (change : Statement) :
    (statement target change).Fails ↔
      target.dialect.Refuses (.statement change) ∨
        ∃ node ∈ change.visits target.dialect, node.Fails target := by
  have apart (other : ∀ nested, change ≠ .insert nested) : ¬ target.dialect.Refuses (.statement change) := by
    cases target.dialect with
    | generic => exact id
    | spanner =>
      intro refused
      cases refused with
      | conflict nested => exact other nested rfl
  cases change with
  | select nested =>
    simp [apart nofun, statement, Statement.visits, Node.Fails, Node.fragment]
  | insert nested => exact insert_fails target nested
  | update nested => exact (update_fails target nested).trans (or_iff_right (apart nofun)).symm
  | delete nested => exact (delete_fails target nested).trans (or_iff_right (apart nofun)).symm

/-- A node fails if it is refused itself, or if a node that it visits next fails. -/
theorem node_fails (node : Node) (scope : Scope) :
    (node.fragment target scope).Fails ↔
      target.dialect.Refuses node ∨ ∃ inner ∈ node.visits target.dialect, inner.Fails target := by
  cases node with
  | statement change => exact statement_fails target change
  | query nested =>
    have apart : ¬ target.dialect.Refuses (.query nested) := by cases target.dialect <;> nofun
    exact (query_fails target nested scope).trans (or_iff_right apart).symm
  | group from_ =>
    have apart : ¬ target.dialect.Refuses (.group from_) := by cases target.dialect <;> nofun
    exact (group_fails target from_).trans (or_iff_right apart).symm
  | table from_ => exact table_fails target from_
  | predicate p => exact predicate_fails target p
  | expr e =>
    have apart : ¬ target.dialect.Refuses (.expr e) := by cases target.dialect <;> nofun
    exact (expr_fails target e).trans (or_iff_right apart).symm
  | item e =>
    rw [Node.fragment, item_fails]
    simp [Node.visits]

end Render

theorem Node.fails_iff (target : Target) (node : Node) :
    node.Fails target ↔ ∃ inner, target.dialect.Visits node inner ∧ target.dialect.Refuses inner := by
  constructor
  · intro fails
    induction node using Node.induction with
    | step node ih =>
      rcases (Render.node_fails target node {}).mp fails with refused | ⟨inner, mem, fails⟩
      · exact ⟨node, .refl, refused⟩
      · obtain ⟨deeper, visited, refused⟩ := ih inner (below_of_mem_visits mem) fails
        exact ⟨deeper, .head mem visited, refused⟩
  · rintro ⟨inner, visited, refused⟩
    induction visited using Relation.ReflTransGen.head_induction_on with
    | refl => exact (Render.node_fails target inner {}).mpr (.inl refused)
    | head mem _ ih => exact (Render.node_fails target _ {}).mpr (.inr ⟨_, mem, ih⟩)

/-- The generic dialect renders every statement. Spanner fails if and only if it visits a node that it
refuses. -/
theorem Statement.render_fails_iff (statement : Statement) (config : Config) :
    (∃ rendering, statement.render ⟨.generic, config⟩ = .ok rendering) ∧
      ((∃ cause, statement.render ⟨.spanner, config⟩ = .error cause) ↔
        ∃ node, Dialect.spanner.Visits (.statement statement) node ∧ Spanner.Refuses node) := by
  have fails (target : Target) : (∃ cause, statement.render target = .error cause) ↔
      ∃ node, target.dialect.Visits (.statement statement) node ∧ target.dialect.Refuses node := by
    rw [Statement.render, Fragment.fails_rendering]
    exact Node.fails_iff target (.statement statement)
  refine ⟨?_, fails ⟨.spanner, config⟩⟩
  cases rendered : statement.render ⟨.generic, config⟩ with
  | ok rendering => exact ⟨rendering, rfl⟩
  | error cause =>
    obtain ⟨_, _, refused⟩ := (fails ⟨.generic, config⟩).mp ⟨cause, rendered⟩
    exact refused.elim

end PortableSql
