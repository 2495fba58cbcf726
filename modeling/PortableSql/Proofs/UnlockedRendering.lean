import PortableSql.Proofs.NestedNode
import PortableSql.Proofs.UnlockedConstruct

/-! Locks have no effect on what Spanner renders.

What is written for a node without its locks is what is written for the node, without the notes of locks; the
induction follows the traversal of the renderer. As Spanner takes no locks, the notes say nothing either
(`Statement.render_unlocked`).
-/

set_option autoImplicit false

namespace PortableSql

namespace Render

variable {config : Config}

mutual

theorem operand_unlocked : (e : Expr) →
    operand ⟨.spanner, config⟩ (e.revise .unlocking) = (operand ⟨.spanner, config⟩ e).unlocked
  | .star | .parameter _ => rfl
  | .literal value => by simp [Expr.revise, operand, Operand.unlocked]
  | .column column => by simp [Expr.revise, operand, Operand.unlocked]
  | .arithmetic left op right => by
    simp only [Expr.revise, Revision.below_unlocking, operand, Operand.unlocked, arithmetic_unlocked,
      operand_unlocked left, operand_unlocked right, Operand.fragment_unlocked]
  | .function call => by simp only [Expr.revise, operand, Operand.unlocked, function_unlocked call]
  | .window call partitionBy orderBy => by
    simp only [Expr.revise, Revision.below_unlocking, operand, Operand.unlocked, window_unlocked,
      function_unlocked call, partitionItems_unlocked partitionBy, sortItems_unlocked orderBy]
  | .tuple items => by simp only [Expr.revise, operand, Operand.unlocked, exprs_unlocked items]
  | .subquery quantifier nested => by simp only [Expr.revise, operand, Operand.unlocked, query_unlocked nested]
  | .summarization kind groupings => by
    simp only [Expr.revise, operand, Operand.unlocked, functionOf_unlocked, exprs_unlocked groupings]

theorem exprs_unlocked : (items : List Expr) →
    exprs ⟨.spanner, config⟩ (reviseExprs .unlocking items) =
      (exprs ⟨.spanner, config⟩ items).map Fragment.unlocked
  | [] => rfl
  | e :: rest => by
    simp only [reviseExprs, Revision.below_unlocking, exprs, List.map_cons, operand_unlocked e,
      exprs_unlocked rest, Operand.fragment_unlocked]

theorem function_unlocked : (call : FunctionCall) →
    function ⟨.spanner, config⟩ (call.revise .unlocking) = (function ⟨.spanner, config⟩ call).unlocked
  | ⟨name, args, _⟩ => by simp only [FunctionCall.revise, function, functionOf_unlocked, exprs_unlocked args]

theorem partitionItems_unlocked : (items : List Expr) →
    partitionItems ⟨.spanner, config⟩ (reviseExprs .unlocking items) =
      (partitionItems ⟨.spanner, config⟩ items).map Fragment.unlocked
  | [] => rfl
  | item :: rest => by
    simp only [reviseExprs, Revision.below_unlocking, partitionItems, List.map_cons, partitionItem_unlocked,
      operand_unlocked item, partitionItems_unlocked rest, Operand.fragment_unlocked]

theorem sortItems_unlocked : (items : List SortItem) →
    sortItems ⟨.spanner, config⟩ (reviseSorts .unlocking items) =
      (sortItems ⟨.spanner, config⟩ items).map Fragment.unlocked
  | [] => rfl
  | ⟨e, _, _⟩ :: rest => by
    simp only [reviseSorts, Revision.below_unlocking, sortItems, List.map_cons, sortItem_unlocked,
      operand_unlocked e, sortItems_unlocked rest, Operand.fragment_unlocked]

theorem predicate_unlocked : (p : Predicate) →
    predicate ⟨.spanner, config⟩ (p.revise .unlocking) = (predicate ⟨.spanner, config⟩ p).unlocked
  | .comparison left op right => by
    simp only [Predicate.revise, Revision.below_unlocking, predicate, comparison_unlocked,
      operand_unlocked left, operand_unlocked right]
  | .inList test values negated => by
    simp only [Predicate.revise, Revision.below_unlocking, predicate, inList_unlocked, operand_unlocked test,
      exprs_unlocked values, Operand.fragment_unlocked]
  | .inSubquery test nested negated => by
    simp only [Predicate.revise, Revision.below_unlocking, predicate, Fragment.unlocked_append,
      Fragment.unlocked_text, operand_unlocked test, query_unlocked nested, Operand.fragment_unlocked,
      RenderedQuery.subquery_unlocked]
  | .inArray test array => by
    simp only [Predicate.revise, Revision.below_unlocking, predicate, inArray_unlocked, operand_unlocked test,
      operand_unlocked array, Operand.fragment_unlocked]
  | .like ⟨matched, pattern, none, _, _⟩ => by
    simp only [Predicate.revise, Revision.below_unlocking, predicate, like_unlocked, operand_unlocked matched,
      operand_unlocked pattern, Operand.fragment_unlocked, reviseOptional, optional, Option.map_none]
  | .like ⟨matched, pattern, some escape, _, _⟩ => by
    simp only [Predicate.revise, Revision.sparing_unlocking, predicate, like_unlocked, operand_unlocked matched,
      operand_unlocked pattern, operand_unlocked escape, Operand.fragment_unlocked, reviseOptional, optional,
      Option.map_some]
  | .nullness tested negated => by
    simp only [Predicate.revise, predicate, Fragment.unlocked_append, Fragment.unlocked_text,
      operand_unlocked tested, Operand.fragment_unlocked]
  | .between tested low high negated => by
    simp only [Predicate.revise, Revision.below_unlocking, predicate, Fragment.unlocked_append,
      Fragment.unlocked_text, operand_unlocked tested, operand_unlocked low, operand_unlocked high,
      Operand.fragment_unlocked]
  | .existence nested negated => by
    simp only [Predicate.revise, predicate, Fragment.unlocked_append, Fragment.unlocked_onlyIf,
      Fragment.unlocked_text, query_unlocked nested, RenderedQuery.subquery_unlocked]
  | .junction kind parts => by
    simp only [Predicate.revise, predicate, Fragment.unlocked_separated, junctionParts_unlocked parts]
  | .negation inner => by
    simp only [Predicate.revise, predicate, Fragment.unlocked_append, Fragment.unlocked_text,
      Fragment.unlocked_parens, predicate_unlocked inner]

theorem junctionParts_unlocked : (parts : List Predicate) →
    junctionParts ⟨.spanner, config⟩ (revisePredicates .unlocking parts) =
      (junctionParts ⟨.spanner, config⟩ parts).map Fragment.unlocked
  | [] => rfl
  | part :: rest => by
    simp only [revisePredicates, Revision.below_unlocking, junctionParts, List.map_append,
      junctionPart_unlocked, predicate_unlocked part, junctionParts_unlocked rest]

theorem condition_unlocked : (restriction : Option Predicate) →
    condition ⟨.spanner, config⟩ (reviseCondition .unlocking restriction) =
      (condition ⟨.spanner, config⟩ restriction).map Fragment.unlocked
  | none => rfl
  | some p => by
    simp only [Revision.condition_unlocking, condition, Predicate.isEmpty_revise, predicate_unlocked p,
      apply_ite (Option.map Fragment.unlocked), Option.map_none, Option.map_some]

theorem optional_unlocked : (value : Option Expr) →
    optional ⟨.spanner, config⟩ (reviseOptional .unlocking value) =
      (optional ⟨.spanner, config⟩ value).map Fragment.unlocked
  | none => rfl
  | some e => by
    simp only [reviseOptional, optional, operand_unlocked e, Option.map_some, Operand.fragment_unlocked]

theorem query_unlocked : (nested : Query) →
    query ⟨.spanner, config⟩ (nested.revise .unlocking) = (query ⟨.spanner, config⟩ nested).unlocked
  | ⟨_, selections, sources, restriction, groupBy, having, orderBy, offset, fetch, _⟩ => by
    have present : (reviseCondition .unlocking having).isSome = having.isSome := by cases having <;> rfl
    simp only [Query.revise, Revision.below_unlocking, query, queryOf_unlocked, QueryParts.unlocked,
      selectionList_unlocked selections, groups_unlocked sources, condition_unlocked restriction,
      partitionItems_unlocked groupBy, condition_unlocked having, sortItems_unlocked orderBy,
      optional_unlocked offset, optional_unlocked fetch, present, Revision.keepsLocks_unlocking,
      Bool.false_eq_true, if_false]

theorem selectionList_unlocked : (selections : List Selection) →
    selectionList ⟨.spanner, config⟩ (reviseSelections .unlocking selections) =
      (selectionList ⟨.spanner, config⟩ selections).map (Prod.map Fragment.unlocked id)
  | [] => rfl
  | ⟨e, _⟩ :: rest => by
    simp only [reviseSelections, Revision.below_unlocking, selectionList, List.map_cons, Prod.map_apply, id_eq,
      operand_unlocked e, selectionList_unlocked rest, Operand.fragment_unlocked]

theorem groups_unlocked : (sources : List TableGroup) →
    groups ⟨.spanner, config⟩ (reviseGroups .unlocking sources) =
      (groups ⟨.spanner, config⟩ sources).map Fragment.unlocked
  | [] => rfl
  | ⟨primary, joined⟩ :: rest => by
    simp only [reviseGroups, Revision.below_unlocking, groups, List.map_cons, Fragment.unlocked_append,
      table_unlocked primary, joins_unlocked joined, groups_unlocked rest]

theorem joins_unlocked : (joined : List Join) →
    joins ⟨.spanner, config⟩ (reviseJoins .unlocking joined) = (joins ⟨.spanner, config⟩ joined).unlocked
  | [] => rfl
  | ⟨kind, right, on⟩ :: rest => by
    simp only [reviseJoins, Revision.below_unlocking, joins, Fragment.unlocked_append, join_unlocked,
      table_unlocked right, condition_unlocked on, joins_unlocked rest]

theorem table_unlocked : (from_ : TableRef) →
    table ⟨.spanner, config⟩ (from_.revise .unlocking) = (table ⟨.spanner, config⟩ from_).unlocked
  | .named named => by simp only [TableRef.revise, table, NamedTable.fragment_unlocked]
  | .derived ⟨origin, _, _, _⟩ => by
    simp only [TableRef.revise, table, derivedTable_unlocked, source_unlocked origin]

theorem source_unlocked : (origin : DerivedSource) →
    source ⟨.spanner, config⟩ (origin.revise .unlocking) = (source ⟨.spanner, config⟩ origin).unlocked
  | .query nested => by simp only [DerivedSource.revise, source, RenderedSource.unlocked, query_unlocked nested]
  | .function call => by
    simp only [DerivedSource.revise, source, RenderedSource.unlocked, function_unlocked call]

end

theorem assignments_unlocked (items : List Assignment) :
    assignments ⟨.spanner, config⟩ (items.map (Revision.assignment .unlocking)) =
      (assignments ⟨.spanner, config⟩ items).unlocked := by
  simp only [assignments, Fragment.unlocked_separated, List.map_map]
  refine congrArg (Fragment.separated ",") (List.map_congr_left fun item _ => ?_)
  simp [Revision.assignment, expr, operand_unlocked]

theorem insertSource_unlocked (origin : InsertSource) :
    insertSource ⟨.spanner, config⟩ (Revision.unlocking.source origin) =
      (insertSource ⟨.spanner, config⟩ origin).unlocked := by
  cases origin with
  | query nested => simp only [Revision.source, insertSource, query_unlocked, RenderedQuery.unlocked]
  | values rows =>
    simp [Revision.source, insertSource, apply_ite Fragment.unlocked, Function.comp_def, exprs_unlocked]

theorem conflictClause_unlocked (conflict : Conflict) :
    conflictClause ⟨.spanner, config⟩ (Revision.unlocking.conflict conflict) =
      (conflictClause ⟨.spanner, config⟩ conflict).unlocked := by
  obtain ⟨action, name, names, guard⟩ := conflict
  have target : (constraint name names).unlocked = constraint name names := by cases name <;> simp [constraint]
  cases action <;>
    simp [Revision.conflict, Revision.action, conflictClause, target, assignments_unlocked, restriction,
      condition_unlocked]

theorem dmlTarget_unlocked (clause : Option Clause) (table : NamedTable) :
    (dmlTarget ⟨.spanner, config⟩ clause table).unlocked = dmlTarget ⟨.spanner, config⟩ clause table := by
  simp [dmlTarget, Target.overrides, Dialect.overrides, Spanner.overrides, Spanner.dmlTarget, standardDmlTarget]

theorem returning_unlocked (columns : List ColumnRef) : (returning columns).unlocked = returning columns := by
  simp [returning, Function.comp_def]

/-- A change that gets a restriction if it has none. -/
theorem unrestricted_unlocked (guard : Option Predicate) (head columns : Fragment) :
    (Spanner.unrestricted guard head columns).map Fragment.unlocked =
      Spanner.unrestricted (reviseCondition .unlocking guard) head.unlocked columns.unlocked := by
  have restricts : Predicate.restricts (reviseCondition .unlocking guard) = Predicate.restricts guard :=
    Predicate.restricts_revise (fun _ _ => rfl) guard
  simp [Spanner.unrestricted, restricts, apply_ite (Option.map Fragment.unlocked)]

theorem insert_unlocked (change : Insert) :
    insert ⟨.spanner, config⟩
        { change with
          source := Revision.unlocking.source change.source
          conflict := change.conflict.map Revision.unlocking.conflict } =
      (insert ⟨.spanner, config⟩ change).unlocked := by
  obtain ⟨table, columns, origin, conflict, returned⟩ := change
  cases conflict with
  | none => simp [insert, dmlTarget_unlocked, insertSource_unlocked, returning_unlocked, Fragment.ifSome]
  | some conflict =>
    have refused : Spanner.conflictRefused? (Revision.unlocking.conflict conflict) = _ :=
      Spanner.conflictRefused?_revise (fun _ _ => rfl) conflict
    have action : (Revision.unlocking.conflict conflict).action.isUpdate = conflict.action.isUpdate :=
      conflict.action.isUpdate_revise _
    cases cause : Spanner.conflictRefused? conflict <;>
      simp [insert, dmlTarget_unlocked, insertSource_unlocked, returning_unlocked, conflictClause_unlocked,
        Fragment.ifSome, Target.overrides, Dialect.overrides, Spanner.overrides, Spanner.insertWithConflict, refused,
        action, cause]

theorem statement_unlocked (change : Statement) :
    statement ⟨.spanner, config⟩ change.unlock = (statement ⟨.spanner, config⟩ change).unlocked := by
  cases change with
  | select nested =>
    simp only [Statement.unlock, Statement.revise, statement, query_unlocked, RenderedQuery.unlocked]
  | insert change => exact insert_unlocked change
  | update change =>
    simp [Statement.unlock, Statement.revise, Revision.below_unlocking, statement, update, updateClause,
      setClause, restriction, assignments_unlocked, condition_unlocked, dmlTarget_unlocked, returning_unlocked,
      Target.overrides, Dialect.overrides, Spanner.overrides, unrestricted_unlocked]
  | delete change =>
    simp [Statement.unlock, Statement.revise, statement, delete, deleteClause, restriction, condition_unlocked,
      dmlTarget_unlocked, returning_unlocked, Target.overrides, Dialect.overrides, Spanner.overrides,
      unrestricted_unlocked]

end Render

/-- In what nests in Spanner every choice about locks is to take none. -/
theorem Nests.lockStrategies {config : Config} {Name : String → Prop} {free : Bool} {before after : Nat}
    {fragment : Fragment} (nests : Nests ⟨.spanner, config⟩ Name free before fragment after) :
    ∀ strategy ∈ fragment.marks.filterMap Mark.lockStrategy?, strategy = .none := by
  induction nests with
  | nil | words | distinctness | name | names | literal | bucket | placeholder | table | offer | fail =>
    exact fun _ mem => absurd mem List.not_mem_nil
  | value value => cases value <;> exact fun _ mem => absurd mem List.not_mem_nil
  | lock left => exact List.forall_mem_singleton.mpr (left rfl)
  | @append _ _ _ _ first second left right ihl ihr =>
    rw [Fragment.marks_append]
    cases first.failure with
    | none =>
      rw [List.filterMap_append]
      exact List.forall_mem_append.mpr ⟨ihl, ihr⟩
    | some cause =>
      rw [if_pos Option.isSome_some, List.append_nil]
      exact ihl
  | @inClause _ _ _ fragment clause nests ih =>
    rw [Fragment.inClause, List.filterMap_map, Mark.comp_within _ fun _ _ _ _ => rfl]
    exact ih
  | freely nests ih => exact ih
  | deeper nests ih => exact ih

/-- Where no locks are taken, the notes of it may be left out. -/
theorem Fragment.rendering_unlocked {config : Config} {fragment : Fragment}
    (none : Mark.lockStrategy fragment.marks = .none) :
    fragment.unlocked.rendering config = fragment.rendering config := by
  have silent {α : Type} {default : α} (view : Mark → α)
      (blind : ∀ answer chosen, view (.lock answer chosen) = default)
      (mark : Mark) (lock : (!mark.isLock) = false) : view mark = default := by
    cases mark with
    | lock answer chosen => exact blind answer chosen
    | text | literal | placeholder | table | offer => contradiction
  have noteless : (fragment.marks.filter (!·.isLock)).filterMap Mark.lockStrategy? = [] := by
    rw [List.filterMap_eq_nil_iff]
    intro mark mem
    have other := (List.mem_filter.mp mem).2
    cases mark with
    | lock answer chosen => contradiction
    | text | literal | placeholder | table | offer => rfl
  have same : Mark.lockStrategy (fragment.marks.filter (!·.isLock)) = Mark.lockStrategy fragment.marks := by
    rw [none, Mark.lockStrategy, noteless]
    rfl
  simp only [rendering, unlocked, filter, Rendering.ofMarks_filter (silent (Mark.sql config) fun _ _ => rfl)
    (silent Mark.parameter? fun _ _ => rfl) (silent Mark.table? fun _ _ => rfl) same]

/-- Spanner renders a statement like the one without its locks, or fails for the same cause; and in what it renders
no locks are taken. -/
theorem Statement.render_unlocked (statement : Statement) (config : Config) :
    statement.unlock.render ⟨.spanner, config⟩ = statement.render ⟨.spanner, config⟩ ∧
      ∀ rendering, statement.render ⟨.spanner, config⟩ = .ok rendering → rendering.lock = .none := by
  have nested : (Node.statement statement).Nested ⟨.spanner, config⟩ fun _ => True :=
    Render.node_nested _ (fun _ _ => trivial) fun _ _ _ _ => trivial
  have none : Mark.lockStrategy (Render.statement ⟨.spanner, config⟩ statement).marks = .none := by
    rw [Mark.lockStrategy]
    cases last : List.getLast? _ with
    | none => rfl
    | some strategy => exact nested.alone.lockStrategies strategy (List.mem_of_getLast? last)
  constructor
  · rw [render, render, Render.statement_unlocked, Fragment.rendering_unlocked none]
  · intro rendering rendered
    rw [render, Fragment.rendering] at rendered
    split at rendered
    · contradiction
    · cases rendered
      exact none

end PortableSql
