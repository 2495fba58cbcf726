import PortableSql.Proofs.Bare
import PortableSql.Proofs.Refusal

/-! Statements that both dialects write alike.

Spanner writes some nodes in a way of its own (`Spanner.Alters`). A statement without such a node is
written alike in both dialects, by induction over its nodes: what a node adds differs at most in what was
offered to the dialect.
-/

set_option autoImplicit false

namespace PortableSql

/-- The nodes that Spanner writes in a way of its own, or not at all. -/
inductive Spanner.Alters : Node → Prop
  | lock (nested : Query) (present : nested.lock ≠ none) : Alters (.query nested)
  | paging (nested : Query) (present : nested.offset ≠ none ∨ nested.fetch ≠ none) : Alters (.query nested)
  | literalItem (value : Value) : Alters (.item (.literal value))
  | summarizationItem (kind : SummarizationKind) (groupings : List Expr) :
    Alters (.item (.summarization kind groupings))
  | lateral (table : DerivedTable) (lateral : table.lateral = true) : Alters (.table (.derived table))
  | columnNames (table : DerivedTable) (named : table.columnNames ≠ []) : Alters (.table (.derived table))
  | inArray (test array : Expr) : Alters (.predicate (.inArray test array))
  | ignoringCase (node : Like) (ignoring : node.caseSensitive = false) : Alters (.predicate (.like node))
  | escape (node : Like) (present : node.escape ≠ none) : Alters (.predicate (.like node))
  | distinctness (left : Expr) (op : ComparisonOp) (right : Expr) (distinctness : op.isDistinctness = true) :
    Alters (.predicate (.comparison left op right))
  | membership (left : Expr) (nested : Query) :
    Alters (.predicate (.comparison left .eq (.subquery .any nested)))
  | exclusion (left : Expr) (nested : Query) :
    Alters (.predicate (.comparison left .ne (.subquery .every nested)))
  | rows (left right : List Expr) (op : ComparisonOp) :
    Alters (.predicate (.comparison (.tuple left) op (.tuple right)))
  | rowSubquery (left : List Expr) (op : ComparisonOp) (quantifier : Quantifier) (nested : Query) :
    Alters (.predicate (.comparison (.tuple left) op (.subquery quantifier nested)))
  | division (left right : Expr) (integral : ArithmeticOp.dividePortable.isIntegerDivision left right = true) :
    Alters (.expr (.arithmetic left .dividePortable right))
  | conflict (change : Insert) (present : change.conflict ≠ none) : Alters (.statement (.insert change))
  | update (change : Update)
    (special : change.target.aliasName ≠ none ∨ Predicate.restricts change.restriction = false) :
    Alters (.statement (.update change))
  | delete (change : Delete)
    (special : change.target.aliasName ≠ none ∨ Predicate.restricts change.restriction = false) :
    Alters (.statement (.delete change))

/-- Whether both dialects write a node alike, offers apart. -/
def Node.Agrees (config : Config) (node : Node) : Prop :=
  (node.fragment ⟨.spanner, config⟩ {}).bare = (node.fragment ⟨.generic, config⟩ {}).bare

namespace Render

open Fragment

variable {config : Config}

theorem isEmpty_of_bare {first second : List Fragment} (same : first.map bare = second.map bare) :
    first.isEmpty = second.isEmpty := by
  simpa only [List.isEmpty_map] using congrArg List.isEmpty same

theorem exprs_agree {items : List Expr} (agree : ∀ e ∈ items, (Node.expr e).Agrees config) :
    (exprs ⟨.spanner, config⟩ items).map bare = (exprs ⟨.generic, config⟩ items).map bare := by
  simp only [exprs_eq_map, List.map_map]
  exact List.map_congr_left agree

theorem partitionItems_agree {items : List Expr} (agree : ∀ e ∈ items, (Node.item e).Agrees config) :
    (partitionItems ⟨.spanner, config⟩ items).map bare = (partitionItems ⟨.generic, config⟩ items).map bare := by
  simp only [partitionItems_eq_map, List.map_map]
  exact List.map_congr_left agree

theorem sortItems_agree {items : List SortItem}
    (agree : ∀ item ∈ items, (Node.expr item.expr).Agrees config) :
    (sortItems ⟨.spanner, config⟩ items).map bare = (sortItems ⟨.generic, config⟩ items).map bare := by
  simp only [sortItems_eq_map, List.map_map]
  refine List.map_congr_left fun item mem => ?_
  have same := agree item mem
  simp only [Node.Agrees, Node.fragment] at same
  simp only [Function.comp_apply, sortItem, bare_append, same]

theorem selections_agree {list : List Selection}
    (agree : ∀ selection ∈ list, (Node.expr selection.expr).Agrees config) :
    (selections {} (selectionList ⟨.spanner, config⟩ list)).bare =
      (selections {} (selectionList ⟨.generic, config⟩ list)).bare := by
  have listed : (aliased (selectionList ⟨.spanner, config⟩ list) []).map bare =
      (aliased (selectionList ⟨.generic, config⟩ list) []).map bare := by
    simp only [aliased_nil, selectionList_eq_map, List.map_map]
    refine List.map_congr_left fun selection mem => ?_
    have same := agree selection mem
    simp only [Node.Agrees, Node.fragment] at same
    simp only [Function.comp_apply, bare_append, same]
  simp only [selections, selectionList_eq_map, List.isEmpty_map] at listed ⊢
  split
  · rfl
  · simp only [bare_separated, listed]

theorem groups_agree {sources : List TableGroup} (agree : ∀ g ∈ sources, (Node.group g).Agrees config) :
    (groups ⟨.spanner, config⟩ sources).map bare = (groups ⟨.generic, config⟩ sources).map bare := by
  simp only [groups_eq_map, List.map_map]
  exact List.map_congr_left agree

theorem condition_agrees {restriction : Option Predicate}
    (agree : ∀ p ∈ restriction, (Node.predicate p).Agrees config) :
    (condition ⟨.spanner, config⟩ restriction).map bare = (condition ⟨.generic, config⟩ restriction).map bare := by
  cases restriction with
  | none => rfl
  | some p =>
    have same := agree p rfl
    simp only [Node.Agrees, Node.fragment] at same
    simp only [condition]
    split
    · rfl
    · simp only [Option.map_some, same]

theorem ifSome_agrees {first second : Option Fragment} (same : first.map bare = second.map bare)
    {r : Fragment → Fragment}
    (kept : ∀ fragment fragment', fragment.bare = fragment'.bare → (r fragment).bare = (r fragment').bare) :
    (ifSome first r).bare = (ifSome second r).bare := by
  cases first with
  | none => rw [Option.map_eq_none_iff.mp same.symm]
  | some condition =>
    obtain ⟨condition', rfl, bare⟩ := Option.map_eq_some_iff.mp same.symm
    exact kept condition condition' bare.symm

theorem restriction_agrees {first second : Option Fragment} (same : first.map bare = second.map bare)
    (clause : Clause) (keyword : String) :
    (RowValue.restriction clause keyword first).bare = (RowValue.restriction clause keyword second).bare :=
  ifSome_agrees same fun fragment fragment' bare => by simp only [bare_inClause, bare_append, bare]

/-- A list in a clause of its own, if it has elements. -/
theorem listed_agree {first second : List Fragment} (same : first.map bare = second.map bare) (clause : Clause)
    (keyword : String) :
    (onlyIf (!first.isEmpty) (inClause clause (text keyword ++ separated "," first))).bare =
      (onlyIf (!second.isEmpty) (inClause clause (text keyword ++ separated "," second))).bare := by
  simp only [bare_onlyIf, bare_inClause, bare_append, bare_separated, same, isEmpty_of_bare same]

theorem function_agrees {call : FunctionCall} (agree : ∀ node ∈ call.nodes, node.Agrees config) :
    (function ⟨.spanner, config⟩ call).bare = (function ⟨.generic, config⟩ call).bare := by
  obtain ⟨name, args, returnType⟩ := call
  have same := exprs_agree fun e mem => agree (.expr e) (List.mem_map_of_mem mem)
  simp only [function, functionOf, bare_append, bare_parens, bare_separated, same]

theorem query_agrees {nested : Query} (apart : ¬ Spanner.Alters (.query nested))
    (agree : ∀ node ∈ nested.nodes, node.Agrees config) : (Node.query nested).Agrees config := by
  obtain ⟨selected, sources, restriction, groupBy, having, orderBy, -, -⟩ := Query.forall_nodes.mp agree
  have lock : nested.lock = none := not_not.mp fun present => apart (.lock nested present)
  have offset : nested.offset = none := not_not.mp fun present => apart (.paging nested (.inl present))
  have fetch : nested.fetch = none := not_not.mp fun present => apart (.paging nested (.inr present))
  have clause : (selectClause ⟨.spanner, config⟩ nested.distinct {}
        (selectionList ⟨.spanner, config⟩ nested.selections)).bare =
      (selectClause ⟨.generic, config⟩ nested.distinct {}
        (selectionList ⟨.generic, config⟩ nested.selections)).bare := by
    have list := selections_agree selected
    simp only [selectClause, bare_offer, Target.overrides, Dialect.overrides, Spanner.overrides,
      Overrides.none, Option.getD_some, Option.getD_none, Spanner.selectClause, bare_append, list]
    rfl
  have paging : (offsetFetch ⟨.spanner, config⟩ none none).bare = (offsetFetch ⟨.generic, config⟩ none none).bare := rfl
  simp only [Node.Agrees, Node.fragment, query_inScope, query_parts, queryInScope, lock, offset, fetch, bare_append,
    bare_inClause, clause, listed_agree (groups_agree sources), restriction_agrees (condition_agrees restriction),
    restriction_agrees (condition_agrees having), listed_agree (sortItems_agree orderBy), RowValue.grouping,
    listed_agree (partitionItems_agree groupBy), optional, paging, ifSome]

theorem joins_agree {joined : List Join} (agree : ∀ j ∈ joined, ∀ node ∈ j.nodes, node.Agrees config) :
    (joins ⟨.spanner, config⟩ joined).bare = (joins ⟨.generic, config⟩ joined).bare := by
  induction joined with
  | nil => rfl
  | cons j rest ih =>
    obtain ⟨own, others⟩ := List.forall_mem_cons.mp agree
    have table := own (.table j.table) (.head _)
    have on := condition_agrees fun p mem =>
      own (.predicate p) (.tail _ (List.mem_map_of_mem (Option.mem_toList.mpr mem)))
    simp only [Node.Agrees, Node.fragment] at table
    have condition := ifSome_agrees on (r := fun condition => text " on " ++ condition)
      fun fragment fragment' bare => by simp only [bare_append, bare]
    simp only [joins_cons, join, bare_append, table, condition, ih others]

theorem group_agrees {from_ : TableGroup} (agree : ∀ node ∈ from_.nodes, node.Agrees config) :
    (Node.group from_).Agrees config := by
  have primary := agree (.table from_.primary) (.head _)
  have joined := joins_agree fun j mem node inner =>
    agree node (.tail _ (List.mem_flatMap.mpr ⟨j, mem, inner⟩))
  simp only [Node.Agrees, Node.fragment] at primary ⊢
  simp only [group, bare_append, primary, joined]

theorem table_agrees {from_ : TableRef} (apart : ¬ Spanner.Alters (.table from_))
    (agree : ∀ node ∈ from_.nodes, node.Agrees config) : (Node.table from_).Agrees config := by
  match from_ with
  | .named named => rfl
  | .derived ⟨source, aliasName, columnNames, lateral⟩ =>
    obtain rfl : lateral = false := eq_false_of_ne_true fun lateral => apart (.lateral _ lateral)
    obtain rfl : columnNames = [] := not_not.mp fun named => apart (.columnNames _ named)
    cases source with
    | query nested =>
      have same := agree (.query nested) (.head _)
      simp only [Node.Agrees, Node.fragment] at same
      simp only [Node.Agrees, Node.fragment, table, derivedTable, Render.source, queryPart, derivedAlias,
        bare_offer, Target.overrides, Dialect.overrides, Spanner.overrides, Overrides.none, Option.getD_some,
        Option.getD_none, Spanner.derivedTable, Bool.false_eq_true, if_false, bare_append,
        RenderedQuery.renamed, Query.namesRefused?, List.isEmpty_nil, if_true, RenderedQuery.subquery,
        bare_parens, same]
      rfl
    | function call =>
      have same := function_agrees agree
      simp only [Node.Agrees, Node.fragment, table, derivedTable, Render.source, derivedAlias,
        bare_offer, Target.overrides, Dialect.overrides, Spanner.overrides, Overrides.none, Option.getD_some,
        Option.getD_none, Spanner.derivedTable, Bool.false_eq_true, if_false, bare_append, same]
      rfl

theorem expr_agrees {e : Expr} (apart : ¬ Spanner.Alters (.expr e))
    (agree : ∀ node ∈ e.nodes, node.Agrees config) : (Node.expr e).Agrees config := by
  cases e with
  | star | literal | column | parameter => rfl
  | arithmetic left op right =>
    have l := agree (.expr left) (.head _)
    have r := agree (.expr right) (.tail _ (.head _))
    have standard : op.isIntegerDivision left right = false := by
      refine eq_false_of_ne_true fun integral => apart ?_
      obtain rfl : op = .dividePortable := by
        cases op with
        | dividePortable => rfl
        | add | subtract | multiply | divide | modulo => contradiction
      exact .division left right integral
    simp only [Node.Agrees, Node.fragment] at l r ⊢
    simp only [expr_arithmetic, arithmetic, bare_offer, Target.overrides, Dialect.overrides, Spanner.overrides,
      Overrides.none, Spanner.arithmetic, standard, Bool.false_eq_true, if_false, Option.getD_none,
      standardArithmetic]
    split
    · simp only [functionOf, bare_append, bare_parens, bare_separated, List.map_cons, l, r]
    · simp only [bare_parens, bare_append, l, r]
  | function call => exact function_agrees agree
  | window call partitionBy orderBy =>
    simp only [Expr.nodes, List.forall_mem_append] at agree
    obtain ⟨⟨args, partitions⟩, sorts⟩ := agree
    have partitions := partitionItems_agree (List.forall_mem_map.mp partitions)
    have sorts := sortItems_agree (List.forall_mem_map.mp sorts)
    have empty := isEmpty_of_bare partitions
    have empty' := isEmpty_of_bare sorts
    simp only [Node.Agrees, Node.fragment, expr, operand, Operand.fragment, window, bare_append,
      bare_onlyIf, bare_inClause, bare_separated, function_agrees args, partitions, sorts, empty, empty']
  | tuple items =>
    have same := exprs_agree (List.forall_mem_map.mp agree)
    simp only [Node.Agrees, Node.fragment, expr, operand, Operand.fragment, bare_parens, bare_separated, same]
  | subquery quantifier nested =>
    have same := agree (.query nested) (.head _)
    simp only [Node.Agrees, Node.fragment] at same ⊢
    cases quantifier <;>
      simp only [expr, operand, Operand.fragment, RenderedQuery.subquery, bare_append, bare_parens, same]
  | summarization kind groupings =>
    have same := exprs_agree (List.forall_mem_map.mp agree)
    simp only [Node.Agrees, Node.fragment, expr, operand, Operand.fragment, functionOf, bare_append,
      bare_parens, bare_separated, same]

theorem item_agrees {e : Expr} (apart : ¬ Spanner.Alters (.item e)) (agree : (Node.expr e).Agrees config) :
    (Node.item e).Agrees config := by
  simp only [Node.Agrees, Node.fragment] at agree ⊢
  cases e with
  | literal value => exact absurd (.literalItem value) apart
  | summarization kind groupings => exact absurd (.summarizationItem kind groupings) apart
  | star | column | parameter | arithmetic | function | window | tuple | subquery =>
    simpa only [partitionItem, bare_offer, Target.overrides, Dialect.overrides, Spanner.overrides,
      Overrides.none, Spanner.partitionItem, Option.getD_none, standardPartitionItem] using agree

/-- A comparison that Spanner leaves as it is. -/
theorem of_eq_native {left : Expr} {op : ComparisonOp} {right : Expr}
    (apart : ¬ Spanner.Alters (.predicate (.comparison left op right))) :
    Spanner.ComparisonForm.of left op right = .native left op right := by
  have comparable : op.isDistinctness = false :=
    eq_false_of_ne_true fun distinctness => apart (.distinctness left op right distinctness)
  unfold Spanner.ComparisonForm.of
  rw [if_neg (by rw [comparable]; exact Bool.false_ne_true)]
  cases right with
  | subquery quantifier nested =>
    have other : ¬ (op = .eq ∧ quantifier = .any ∨ op = .ne ∧ quantifier = .every) := by
      rintro (⟨rfl, rfl⟩ | ⟨rfl, rfl⟩)
      · exact apart (.membership left nested)
      · exact apart (.exclusion left nested)
    simp only [if_neg other]
    cases left with
    | tuple row => exact absurd (.rowSubquery row op quantifier nested) apart
    | star | literal | column | parameter | arithmetic | function | window | subquery | summarization => rfl
  | tuple others =>
    cases left with
    | tuple row => exact absurd (.rows row others op) apart
    | star | literal | column | parameter | arithmetic | function | window | subquery | summarization => rfl
  | star | literal | column | parameter | arithmetic | function | window | summarization => rfl

theorem junctionParts_agree {parts : List Predicate} (agree : ∀ p ∈ parts, (Node.predicate p).Agrees config) :
    (junctionParts ⟨.spanner, config⟩ parts).map bare = (junctionParts ⟨.generic, config⟩ parts).map bare := by
  simp only [junctionParts_eq_flatMap, List.map_flatMap]
  refine List.flatMap_congr fun p mem => ?_
  have same : (predicate ⟨.spanner, config⟩ p).bare = (predicate ⟨.generic, config⟩ p).bare := agree p mem
  simp only [junctionPart]
  split_ifs <;> simp only [List.map_nil, List.map_cons, bare_parens, same]

theorem predicate_agrees {p : Predicate} (apart : ¬ Spanner.Alters (.predicate p))
    (agree : ∀ node ∈ p.nodes, node.Agrees config) : (Node.predicate p).Agrees config := by
  have tested (e : Expr) (mem : .expr e ∈ p.nodes) :
      (operand ⟨.spanner, config⟩ e).fragment.bare = (operand ⟨.generic, config⟩ e).fragment.bare :=
    agree (.expr e) mem
  have rows (nested : Query) (mem : .query nested ∈ p.nodes) :
      (query ⟨.spanner, config⟩ nested).subquery.bare = (query ⟨.generic, config⟩ nested).subquery.bare := by
    have same := agree (.query nested) mem
    simp only [Node.Agrees, Node.fragment] at same
    simp only [RenderedQuery.subquery, bare_parens, same]
  simp only [Node.Agrees, Node.fragment]
  cases p with
  | comparison left op right =>
    simp only [predicate, comparison, bare_offer, Target.overrides, Dialect.overrides, Spanner.overrides,
      Overrides.none, Option.getD_some, Option.getD_none, Spanner.ComparisonForm.comparison_eq,
      of_eq_native apart, Spanner.ComparisonForm.fragment, RowValue.native, RowValue.compare, expr, bare_append,
      tested left (.head _), tested right (.tail _ (.head _))]
  | inList test values negated =>
    have same := exprs_agree (List.forall_mem_map.mp (List.forall_mem_cons.mp agree).2)
    simp only [predicate, inList, isEmpty_of_bare same]
    split
    · rfl
    · simp only [bare_append, bare_parens, bare_separated, tested test (.head _), same]
  | inSubquery test nested negated =>
    simp only [predicate, bare_append, tested test (.head _), rows nested (.tail _ (.head _))]
  | inArray test array => exact absurd (.inArray test array) apart
  | like node =>
    obtain ⟨matched, pattern, escape, caseSensitive, negated⟩ := node
    obtain rfl : caseSensitive = true := eq_true_of_ne_false fun ignoring => apart (.ignoringCase _ ignoring)
    obtain rfl : escape = none := not_not.mp fun present => apart (.escape _ present)
    simp only [predicate, like, bare_offer, Target.overrides, Dialect.overrides, Spanner.overrides,
      Overrides.none, Spanner.like, if_true, Option.getD_none, Pattern.standard, bare_append,
      tested matched (.head _), tested pattern (.tail _ (.head _)), optional]
  | nullness test negated => simp only [predicate, bare_append, tested test (.head _)]
  | between test low high negated =>
    simp only [predicate, bare_append, tested test (.head _), tested low (.tail _ (.head _)),
      tested high (.tail _ (.tail _ (.head _)))]
  | existence nested negated => simp only [predicate, bare_append, rows nested (.head _)]
  | junction kind parts =>
    have same := junctionParts_agree (List.forall_mem_map.mp agree)
    simp only [predicate, bare_separated, same]
  | negation inner =>
    have same : (predicate ⟨.spanner, config⟩ inner).bare = (predicate ⟨.generic, config⟩ inner).bare :=
      agree (.predicate inner) (.head _)
    simp only [predicate, bare_append, bare_parens, same]

theorem dmlTarget_agrees {clause : Option Clause} {table : NamedTable}
    (plain : clause = some .insert ∨ table.aliasName = none) :
    (dmlTarget ⟨.spanner, config⟩ clause table).bare = (dmlTarget ⟨.generic, config⟩ clause table).bare := by
  simp only [dmlTarget, bare_offer, Target.overrides, Dialect.overrides, Spanner.overrides, Overrides.none,
    Option.getD_some, Option.getD_none, Spanner.dmlTarget, standardDmlTarget]
  rcases plain with rfl | plain
  · rfl
  · rw [plain]
    cases clause != some .insert <;> rfl

theorem assignments_agree {items : List Assignment}
    (agree : ∀ node ∈ items.map (Node.expr ·.value), node.Agrees config) :
    (assignments ⟨.spanner, config⟩ items).bare = (assignments ⟨.generic, config⟩ items).bare := by
  simp only [assignments, bare_separated, List.map_map]
  refine congrArg (separated ",") (List.map_congr_left fun item mem => ?_)
  have same : (expr ⟨.spanner, config⟩ item.value).bare = (expr ⟨.generic, config⟩ item.value).bare :=
    agree _ (List.mem_map_of_mem mem)
  simp only [Function.comp_apply, bare_append, same]

theorem insertSource_agrees {source : InsertSource} (agree : ∀ node ∈ source.nodes, node.Agrees config) :
    (insertSource ⟨.spanner, config⟩ source).bare = (insertSource ⟨.generic, config⟩ source).bare := by
  cases source with
  | query nested => exact agree (.query nested) (.head _)
  | values rows =>
    have same : (rows.map fun row => parens (separated "," (exprs ⟨.spanner, config⟩ row))).map bare =
        (rows.map fun row => parens (separated "," (exprs ⟨.generic, config⟩ row))).map bare := by
      simp only [List.map_map]
      refine List.map_congr_left fun row mem => ?_
      have row := exprs_agree fun e inner =>
        agree (.expr e) (List.mem_flatMap.mpr ⟨row, mem, List.mem_map_of_mem inner⟩)
      simp only [Function.comp_apply, bare_parens, bare_separated, row]
    simp only [insertSource]
    split
    · rfl
    · simp only [bare_inClause, bare_append, bare_separated, same]

theorem statement_agrees {change : Statement} (apart : ¬ Spanner.Alters (.statement change))
    (agree : ∀ node ∈ (Node.statement change).children, node.Agrees config) :
    (Node.statement change).Agrees config := by
  cases change with
  | select nested => exact agree (.query nested) (.head _)
  | insert change =>
    obtain ⟨table, columns, source, conflict, returned⟩ := change
    obtain rfl : conflict = none := not_not.mp fun present => apart (.conflict _ present)
    have rows := insertSource_agrees fun node mem => agree node (List.mem_append_left _ mem)
    have head : (dmlTarget ⟨.spanner, config⟩ (some .insert) table).bare = _ := dmlTarget_agrees (.inl rfl)
    simp only [Node.Agrees, Node.fragment, statement, insert, bare_append, bare_inClause, head, rows, ifSome]
  | update change =>
    have plain : change.target.aliasName = none :=
      not_not.mp fun present => apart (.update change (.inl present))
    have restricts : Predicate.restricts change.restriction = true :=
      eq_true_of_ne_false fun special => apart (.update change (.inr special))
    have items := assignments_agree fun node mem => agree node (List.mem_append_left _ mem)
    have restricted := restriction_agrees (condition_agrees fun p mem =>
      agree _ (List.mem_append_right _ (List.mem_map_of_mem (Option.mem_toList.mpr mem)))) .restriction " where "
    have head : (dmlTarget ⟨.spanner, config⟩ (some .update) change.target).bare = _ :=
      dmlTarget_agrees (.inr plain)
    simp only [Node.Agrees, Node.fragment, statement, update, bare_offer, Target.overrides, Dialect.overrides,
      Spanner.overrides, Overrides.none, Spanner.unrestricted, restricts, if_true, Option.getD_none, updateClause,
      setClause, restriction, bare_append, bare_inClause, head, items, restricted]
  | delete change =>
    have plain : change.target.aliasName = none :=
      not_not.mp fun present => apart (.delete change (.inl present))
    have restricts : Predicate.restricts change.restriction = true :=
      eq_true_of_ne_false fun special => apart (.delete change (.inr special))
    have restricted := restriction_agrees (condition_agrees fun p mem =>
      agree _ (List.mem_map_of_mem (Option.mem_toList.mpr mem))) .restriction " where "
    have head : (dmlTarget ⟨.spanner, config⟩ (some .delete) change.target).bare = _ :=
      dmlTarget_agrees (.inr plain)
    simp only [Node.Agrees, Node.fragment, statement, delete, bare_offer, Target.overrides, Dialect.overrides,
      Spanner.overrides, Overrides.none, Spanner.unrestricted, restricts, if_true, Option.getD_none, deleteClause,
      restriction, bare_append, bare_inClause, head, restricted]

/-- A node without a node that Spanner alters is written alike in both dialects. -/
theorem node_agrees (node : Node) (apart : ∀ inner, node.Within inner → ¬ Spanner.Alters inner) :
    node.Agrees config := by
  induction node using Node.induction with
  | step node ih =>
    have own : ¬ Spanner.Alters node := apart node .refl
    have agree (child : Node) (mem : child ∈ node.children) : child.Agrees config :=
      ih child (.single mem) fun inner within => apart inner (.head mem within)
    cases node with
    | statement change => exact statement_agrees own agree
    | query nested => exact query_agrees own agree
    | group from_ => exact group_agrees agree
    | table from_ => exact table_agrees own agree
    | predicate p => exact predicate_agrees own agree
    | expr e => exact expr_agrees own agree
    | item e => exact item_agrees own (agree (.expr e) (.head _))

end Render

/-- The generic dialect writes every statement. -/
theorem Statement.generic_whole (statement : Statement) (config : Config) :
    (Render.statement ⟨.generic, config⟩ statement).failure = none := by
  have whole : ¬ (Node.statement statement).Fails ⟨.generic, config⟩ := fun fails =>
    have ⟨_, _, refused⟩ := (Node.fails_iff ⟨.generic, config⟩ (.statement statement)).mp fails
    refused.elim
  exact Option.isNone_iff_eq_none.mp (by simpa [Node.Fails, Fragment.Fails, Node.fragment] using whole)

/-- A statement without a node that Spanner alters has one rendering, that of both dialects. -/
theorem Statement.render_agrees (statement : Statement) (config : Config)
    (apart : ∀ node, (Node.statement statement).Within node → ¬ Spanner.Alters node) :
    ∃ rendering, statement.render ⟨.spanner, config⟩ = .ok rendering ∧
      statement.render ⟨.generic, config⟩ = .ok rendering := by
  have agree : (Render.statement ⟨.spanner, config⟩ statement).bare =
      (Render.statement ⟨.generic, config⟩ statement).bare :=
    Render.node_agrees (.statement statement) apart
  have same : statement.render ⟨.spanner, config⟩ = statement.render ⟨.generic, config⟩ := by
    rw [render, render, ← Fragment.rendering_bare, agree, Fragment.rendering_bare]
  have rendered : statement.render ⟨.generic, config⟩ =
      .ok (.ofMarks config (Render.statement ⟨.generic, config⟩ statement).marks) := by
    rw [render, Fragment.rendering, statement.generic_whole config]
  exact ⟨_, same.trans rendered, rendered⟩

/-- A deletion of the rows that have a parameter in a column. -/
theorem Statement.render_agrees_deletion :
    let statement : Statement :=
      .delete ⟨{ table := "t" }, some (.comparison (.column { name := "a" }) .eq (.parameter {})), []⟩
    (∀ node, (Node.statement statement).Within node → ¬ Spanner.Alters node) ∧
      ∃ rendering, statement.render ⟨.spanner, .spanner⟩ = .ok rendering ∧
        statement.render ⟨.generic, .spanner⟩ = .ok rendering := by
  intro statement
  have apart (node : Node) (within : (Node.statement statement).Within node) : ¬ Spanner.Alters node := by
    rcases within.cases_head with rfl | ⟨child, mem, within⟩
    · intro alters
      change Spanner.Alters (.statement (.delete ⟨{ table := "t" }, some (.comparison _ _ _), []⟩)) at alters
      cases alters with
      | delete _ special => exact special.elim (fun present => present rfl) nofun
    obtain rfl := List.mem_singleton.mp mem
    rcases within.cases_head with rfl | ⟨child, mem, within⟩
    · intro alters
      cases alters with
      | distinctness _ _ _ distinctness => contradiction
    rcases List.mem_pair.mp mem with rfl | rfl
    · rcases within.cases_head with rfl | ⟨child, mem, _⟩
      · nofun
      · exact absurd mem List.not_mem_nil
    · rcases within.cases_head with rfl | ⟨child, mem, _⟩
      · nofun
      · exact absurd mem List.not_mem_nil
  exact ⟨apart, statement.render_agrees .spanner apart⟩

end PortableSql
