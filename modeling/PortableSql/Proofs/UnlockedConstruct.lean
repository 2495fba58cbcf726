import PortableSql.Proofs.Filter
import PortableSql.Proofs.Revision

/-! Constructs of parts without notes of locks.

Only queries have locks, but they stand in expressions, predicates, tables and changes; a statement is revised to
have none. To leave the notes of locks out of a fragment commutes with every construct that Spanner puts together
from rendered parts: from parts without them it makes the same without them. The locks of a query are only such a
note.
-/

set_option autoImplicit false

namespace PortableSql

/-- Leaving out the locks of all queries. -/
def Revision.unlocking : Revision where
  keepsLocks := false

/-- A statement without locks at any depth. -/
def Statement.unlock (statement : Statement) : Statement :=
  statement.revise .unlocking

namespace Revision

@[simp] theorem below_unlocking (branch : Nat) : unlocking.below branch = unlocking := rfl

@[simp] theorem sparing_unlocking : unlocking.sparing = unlocking := rfl

@[simp] theorem keepsLocks_unlocking : unlocking.keepsLocks = false := rfl

theorem condition_unlocking (restriction : Option Predicate) :
    reviseCondition unlocking restriction = restriction.map (Predicate.revise unlocking) :=
  reviseCondition_eq_map (fun _ => rfl) restriction

@[simp] theorem each_unlocking {α : Type} (revise : Revision → α → α) (elements : List α) :
    unlocking.each revise elements = elements.map (revise unlocking) :=
  each_eq_map below_unlocking revise elements

@[simp] theorem value_unlocking (value : Value) : value.revise unlocking = value :=
  value.revise_eq_self fun _ => rfl

end Revision

def Mark.isLock : Mark → Bool
  | .lock _ _ => true
  | _ => false

namespace Fragment

/-- A fragment without its notes of locks. -/
def unlocked (fragment : Fragment) : Fragment :=
  fragment.filter (!·.isLock)

@[simp] theorem failure_unlocked (fragment : Fragment) : fragment.unlocked.failure = fragment.failure := rfl

@[simp] theorem unlocked_nil : nil.unlocked = nil := rfl

@[simp] theorem unlocked_text (words : String) : (text words).unlocked = text words := rfl

@[simp] theorem unlocked_literal (content : String) : (literal content).unlocked = literal content := rfl

@[simp] theorem unlocked_placeholder (parameter : Parameter) :
    (placeholder parameter).unlocked = placeholder parameter := rfl

@[simp] theorem unlocked_table (name : String) : (table name).unlocked = table name := rfl

@[simp] theorem unlocked_names (list : List String) : (names list).unlocked = names list := rfl

@[simp] theorem unlocked_fail (cause : Error) : (fail cause).unlocked = fail cause := rfl

@[simp] theorem unlocked_append (first second : Fragment) :
    (first ++ second).unlocked = first.unlocked ++ second.unlocked :=
  filter_append first second

@[simp] theorem unlocked_parens (fragment : Fragment) : (parens fragment).unlocked = parens fragment.unlocked :=
  filter_parens (fun _ => rfl) fragment

@[simp] theorem unlocked_onlyIf (condition : Bool) (fragment : Fragment) :
    (onlyIf condition fragment).unlocked = onlyIf condition fragment.unlocked :=
  filter_onlyIf condition fragment

@[simp] theorem unlocked_ifSome {α : Type} (value : Option α) (render : α → Fragment) :
    (ifSome value render).unlocked = ifSome value fun a => (render a).unlocked :=
  filter_ifSome value render

@[simp] theorem unlocked_separated (separator : String) (fragments : List Fragment) :
    (separated separator fragments).unlocked = separated separator (fragments.map unlocked) :=
  filter_separated (fun _ => rfl) separator fragments

-- Notes of locks are in no clause.
@[simp] theorem unlocked_inClause (clause : Clause) (fragment : Fragment) :
    (inClause clause fragment).unlocked = inClause clause fragment.unlocked := by
  have same : (fun mark : Mark => !mark.isLock) ∘ Mark.within clause = fun mark => !mark.isLock :=
    Mark.comp_within _ (fun _ _ _ _ => rfl) clause
  simp only [unlocked, filter, inClause, List.filter_map, same]

@[simp] theorem unlocked_offer (construct : Construct) (answer : Option Fragment) (standard : Fragment) :
    (offer construct answer standard).unlocked = offer construct (answer.map unlocked) standard.unlocked := by
  cases answer <;> exact unlocked_append ..

theorem ifSome_map {α β : Type} (value : Option α) (f : α → β) (render : β → Fragment) :
    ifSome (value.map f) render = ifSome value fun a => render (f a) := by
  cases value <;> rfl

end Fragment

@[simp] theorem Value.fragment_unlocked (config : Config) (value : Value) :
    (value.fragment config).unlocked = value.fragment config := by
  cases value <;> rfl

@[simp] theorem Fragment.unlocked_aliasText (aliasName : String) :
    (aliasText aliasName).unlocked = aliasText aliasName :=
  rfl

@[simp] theorem ColumnRef.fragment_unlocked (column : ColumnRef) : column.fragment.unlocked = column.fragment := by
  simp [fragment]

@[simp] theorem NamedTable.fragment_unlocked (table : NamedTable) : table.fragment.unlocked = table.fragment := by
  simp [fragment]

@[simp] theorem DerivedTable.aliasFragment_unlocked (table : DerivedTable) :
    table.aliasFragment.unlocked = table.aliasFragment :=
  rfl

def QueryParts.unlocked (parts : QueryParts) : QueryParts where
  distinct := parts.distinct
  selections := parts.selections.map (Prod.map Fragment.unlocked id)
  sources := parts.sources.map Fragment.unlocked
  restriction := parts.restriction.map Fragment.unlocked
  groupBy := parts.groupBy.map Fragment.unlocked
  hasHaving := parts.hasHaving
  having := parts.having.map Fragment.unlocked
  orderBy := parts.orderBy.map Fragment.unlocked
  offset := parts.offset.map Fragment.unlocked
  fetch := parts.fetch.map Fragment.unlocked
  lock := none

def RenderedQuery.unlocked (query : RenderedQuery) : RenderedQuery :=
  ⟨query.parts.unlocked, fun scope => (query.inScope scope).unlocked⟩

@[simp] theorem RenderedQuery.subquery_unlocked (query : RenderedQuery) :
    query.subquery.unlocked = query.unlocked.subquery :=
  Fragment.unlocked_parens _

namespace Operand

def unlocked : Operand → Operand
  | .plain fragment => .plain fragment.unlocked
  | .row items => .row (items.map Fragment.unlocked)
  | .subquery quantifier query => .subquery quantifier query.unlocked

@[simp] theorem fragment_unlocked (operand : Operand) : operand.fragment.unlocked = operand.unlocked.fragment := by
  cases operand with
  | plain fragment => rfl
  | row items => simp [fragment, unlocked]
  | subquery quantifier query => cases quantifier <;> simp [fragment, unlocked]

@[simp] theorem selected_unlocked (operand : Operand) : operand.selected.unlocked = operand.unlocked.selected := by
  cases operand with
  | plain fragment => rfl
  | row items => simp [selected, unlocked]
  | subquery quantifier query => exact fragment_unlocked (.subquery quantifier query)

end Operand

namespace RowValue

@[simp] theorem compare_unlocked (left : Fragment) (op : ComparisonOp) (right : Fragment) :
    (compare left op right).unlocked = compare left.unlocked op right.unlocked := by
  simp [compare]

@[simp] theorem pairwise_unlocked (op : ComparisonOp) (left right : List Fragment) :
    (pairwise op left right).map Fragment.unlocked =
      pairwise op (left.map Fragment.unlocked) (right.map Fragment.unlocked) := by
  simp [pairwise, List.map_zipWith, List.zipWith_map]

theorem lexicographic_unlocked (op : ComparisonOp) (ranges : Bool) (left right : List Fragment) :
    (lexicographic op ranges left right).unlocked =
      lexicographic op ranges (left.map Fragment.unlocked) (right.map Fragment.unlocked) := by
  induction left generalizing right with
  | nil => cases right <;> rfl
  | cons l left ih =>
    cases right with
    | nil => cases left <;> rfl
    | cons r right =>
      cases left with
      | nil => exact compare_unlocked l op r
      | cons l' left =>
        have rest := ih right
        simp only [List.map_cons] at rest ⊢
        rw [lexicographic, lexicographic]
        · simp [apply_ite Fragment.unlocked, ← rest]
        · nofun
        · nofun

@[simp] theorem expand_unlocked (ranges : Bool) (left right : List Fragment) (op : ComparisonOp) :
    (expand ranges left right op).unlocked =
      expand ranges (left.map Fragment.unlocked) (right.map Fragment.unlocked) op := by
  unfold expand
  simp only [List.length_map]
  split
  · rfl
  · next same =>
    match left, right, Classical.not_not.mp same with
    | [], [], _ => rfl
    | [l], [r], _ => exact compare_unlocked l op r
    | l :: l' :: left, r :: r' :: right, _ =>
      have ordering (op : ComparisonOp) := lexicographic_unlocked op ranges (l :: l' :: left) (r :: r' :: right)
      simp only [List.map_cons] at ordering ⊢
      cases op <;> simp [ordering]

@[simp] theorem restriction_unlocked (clause : Clause) (keyword : String) (condition : Option Fragment) :
    (restriction clause keyword condition).unlocked =
      restriction clause keyword (condition.map Fragment.unlocked) := by
  simp [restriction, Fragment.ifSome_map]

@[simp] theorem grouping_unlocked (items : List Fragment) :
    (grouping items).unlocked = grouping (items.map Fragment.unlocked) := by
  simp [grouping]

@[simp] theorem native_unlocked (left : Operand) (op : ComparisonOp) (right : Operand) :
    (native left op right).unlocked = native left.unlocked op right.unlocked := by
  simp [native]

@[simp] theorem intersection_unlocked (left : Operand) (negated : Bool) (right : Operand) :
    (intersection left negated right).unlocked = intersection left.unlocked negated right.unlocked := by
  simp [intersection]

section

variable {compareRows : RowComparison}
  (rows : ∀ left right op, (compareRows left right op).unlocked =
    compareRows (left.map Fragment.unlocked) (right.map Fragment.unlocked) op)

include rows

theorem existence_unlocked (row : List Fragment) (query : QueryParts) (op : ComparisonOp) (negated : Bool) :
    (existence compareRows row query op negated).unlocked =
      existence compareRows (row.map Fragment.unlocked) query.unlocked op negated := by
  have columns : (query.selections.map (Prod.map Fragment.unlocked id)).map Prod.fst =
      (query.selections.map Prod.fst).map Fragment.unlocked := by
    rw [List.map_map, List.map_map]
    rfl
  have chosen (grouped : Bool) :
      (if grouped then query.having.map Fragment.unlocked else query.restriction.map Fragment.unlocked) =
        (if grouped then query.having else query.restriction).map Fragment.unlocked :=
    (apply_ite (Option.map _) ..).symm
  simp only [existence, QueryParts.unlocked, Option.isSome_map, List.isEmpty_map, columns, chosen,
    Fragment.ifSome_map, apply_ite Fragment.unlocked, Fragment.unlocked_append, Fragment.unlocked_onlyIf,
    Fragment.unlocked_ifSome, Fragment.unlocked_text, Fragment.unlocked_separated, Fragment.unlocked_fail,
    restriction_unlocked, grouping_unlocked, rows]

theorem emulate_unlocked (left : Operand) (op : ComparisonOp) (right : Operand) :
    (emulate compareRows left op right).unlocked = emulate compareRows left.unlocked op right.unlocked := by
  have test (row : List Fragment) (query : RenderedQuery) := existence_unlocked rows row query.parts
  cases op with
  | distinctFrom | notDistinctFrom => exact intersection_unlocked left _ right
  | eq | ne | lt | lte | gt | gte =>
    cases left with
    | plain | subquery => exact native_unlocked _ _ right
    | row items =>
      cases right with
      | plain fragment => exact native_unlocked _ _ (.plain fragment)
      | row others => exact rows items others _
      | subquery quantifier query =>
        cases quantifier <;> exact test items query _ _

end

end RowValue

namespace Pattern

@[simp] theorem standard_unlocked (caseSensitive negated : Bool) (expr pattern : Fragment)
    (escape : Option Fragment) :
    (standard caseSensitive negated expr pattern escape).unlocked =
      standard caseSensitive negated expr.unlocked pattern.unlocked (escape.map Fragment.unlocked) := by
  simp [standard, escapeClause, Fragment.ifSome_map]

@[simp] theorem unescaped_unlocked (config : Config) (caseSensitive negated : Bool) (expr pattern : Fragment) :
    (unescaped config caseSensitive negated expr pattern).unlocked =
      unescaped config caseSensitive negated expr.unlocked pattern.unlocked := by
  cases caseSensitive <;> simp [unescaped, lowered, escapeClause, Fragment.ifSome]

end Pattern

namespace Render

variable {config : Config}

@[simp] theorem functionOf_unlocked (name : String) (args : List Fragment) :
    (functionOf name args).unlocked = functionOf name (args.map Fragment.unlocked) := by
  simp [functionOf]

theorem arithmetic_unlocked (left : Expr) (op : ArithmeticOp) (right : Expr) (l r : Fragment) :
    (arithmetic ⟨.spanner, config⟩ left op right l r).unlocked =
      arithmetic ⟨.spanner, config⟩ (left.revise .unlocking) op (right.revise .unlocking) l.unlocked r.unlocked := by
  simp [arithmetic, Target.overrides, Dialect.overrides, Spanner.overrides, Spanner.arithmetic,
    standardArithmetic, ArithmeticOp.isIntegerDivision_revise, apply_ite (Option.map Fragment.unlocked),
    apply_ite Fragment.unlocked]

theorem partitionItem_unlocked (item : Expr) (rendered : Fragment) :
    (partitionItem ⟨.spanner, config⟩ item rendered).unlocked =
      partitionItem ⟨.spanner, config⟩ (item.revise .unlocking) rendered.unlocked := by
  cases item <;>
    simp [partitionItem, Target.overrides, Dialect.overrides, Spanner.overrides, Spanner.partitionItem,
      standardPartitionItem, Expr.revise]

@[simp] theorem sortItem_unlocked (rendered : Fragment) (descending : Bool) (nulls : Option NullPrecedence) :
    (sortItem rendered descending nulls).unlocked = sortItem rendered.unlocked descending nulls := by
  simp [sortItem]

@[simp] theorem window_unlocked (call : Fragment) (partitionBy orderBy : List Fragment) :
    (window call partitionBy orderBy).unlocked =
      window call.unlocked (partitionBy.map Fragment.unlocked) (orderBy.map Fragment.unlocked) := by
  simp [window]

theorem rowComparison_unlocked (left right : List Fragment) (op : ComparisonOp) :
    (rowComparison ⟨.spanner, config⟩ left right op).unlocked =
      rowComparison ⟨.spanner, config⟩ (left.map Fragment.unlocked) (right.map Fragment.unlocked) op := by
  simp [rowComparison, Target.overrides, Dialect.overrides, Spanner.overrides]

theorem comparison_unlocked (left : Operand) (op : ComparisonOp) (right : Operand) :
    (comparison ⟨.spanner, config⟩ left op right).unlocked =
      comparison ⟨.spanner, config⟩ left.unlocked op right.unlocked := by
  have answer : (Spanner.comparison (rowComparison ⟨.spanner, config⟩) left op right).unlocked =
      Spanner.comparison (rowComparison ⟨.spanner, config⟩) left.unlocked op right.unlocked := by
    have rows : ∀ left right op, (rowComparison ⟨.spanner, config⟩ left right op).unlocked = _ :=
      rowComparison_unlocked
    have emulated := RowValue.emulate_unlocked rows left op
    -- Only `in` and `not in` are written in another way.
    match op, right with
    | .eq, .subquery .any query | .ne, .subquery .every query => simp [Spanner.comparison, Operand.unlocked]
    | .eq, .plain _ | .eq, .row _ | .eq, .subquery .one _ | .eq, .subquery .every _ => exact emulated _
    | .ne, .plain _ | .ne, .row _ | .ne, .subquery .one _ | .ne, .subquery .any _ => exact emulated _
    | .lt, _ | .lte, _ | .gt, _ | .gte, _ | .distinctFrom, _ | .notDistinctFrom, _ => exact emulated _
  simp [comparison, Target.overrides, Dialect.overrides, Spanner.overrides, answer]

@[simp] theorem inList_unlocked (test : Fragment) (values : List Fragment) (negated : Bool) :
    (inList test values negated).unlocked = inList test.unlocked (values.map Fragment.unlocked) negated := by
  simp [inList, apply_ite Fragment.unlocked]

theorem inArray_unlocked (test array : Fragment) :
    (inArray ⟨.spanner, config⟩ test array).unlocked = inArray ⟨.spanner, config⟩ test.unlocked array.unlocked := by
  simp [inArray, Target.overrides, Dialect.overrides, Spanner.overrides]

theorem like_unlocked (node : Like) (expr pattern : Fragment) (escape : Option Fragment) :
    (like ⟨.spanner, config⟩ node expr pattern escape).unlocked =
      like ⟨.spanner, config⟩
        ⟨node.expr.revise .unlocking, node.pattern.revise .unlocking, reviseOptional .unlocking node.escape,
          node.caseSensitive, node.negated⟩
        expr.unlocked pattern.unlocked (escape.map Fragment.unlocked) := by
  obtain ⟨matched, written, clause, caseSensitive, negated⟩ := node
  have answer : (Spanner.like config ⟨matched, written, clause, caseSensitive, negated⟩ expr pattern).map
      Fragment.unlocked =
        Spanner.like config
          ⟨matched.revise .unlocking, written.revise .unlocking, reviseOptional .unlocking clause, caseSensitive,
            negated⟩
          expr.unlocked pattern.unlocked := by
    cases clause with
    | none => cases caseSensitive <;> simp [Spanner.like, reviseOptional]
    | some clause =>
      have read : Pattern.escape? (clause.revise .unlocking) = _ := Pattern.escape?_revise (fun _ => rfl) clause
      have text : (written.revise .unlocking).string? = _ := written.string?_revise fun _ => rfl
      simp only [Spanner.like, reviseOptional, read, text, Option.map_some]
      refine congrArg some ?_
      cases Pattern.escape? clause with
      | none => rfl
      | some c =>
        cases written.string? with
        | none => simp [apply_ite Fragment.unlocked]
        | some text => simp [apply_ite Fragment.unlocked]
  simp [like, Target.overrides, Dialect.overrides, Spanner.overrides, answer]

theorem junctionPart_unlocked (part : Predicate) (rendered : Fragment) :
    (junctionPart part rendered).map Fragment.unlocked =
      junctionPart (part.revise .unlocking) rendered.unlocked := by
  simp [junctionPart, Predicate.isEmpty_revise, Predicate.isSeveral_revise,
    apply_ite (List.map Fragment.unlocked)]

theorem aliased_unlocked (selections : List (Fragment × Option String)) (forced : List String) :
    (aliased selections forced).map Fragment.unlocked =
      aliased (selections.map (Prod.map Fragment.unlocked id)) forced := by
  induction selections generalizing forced with
  | nil => cases forced <;> rfl
  | cons selection rest ih =>
    obtain ⟨rendered, own⟩ := selection
    cases forced <;> simp [aliased, ih]

theorem selectClause_unlocked (distinct : Bool) (scope : Scope) (list : List (Fragment × Option String)) :
    (selectClause ⟨.spanner, config⟩ distinct scope list).unlocked =
      selectClause ⟨.spanner, config⟩ distinct scope (list.map (Prod.map Fragment.unlocked id)) := by
  have own : (selections scope list).unlocked = selections scope (list.map (Prod.map Fragment.unlocked id)) := by
    simp [selections, apply_ite Fragment.unlocked, aliased_unlocked]
  simp [selectClause, Target.overrides, Dialect.overrides, Spanner.overrides, Spanner.selectClause, own]

theorem offsetFetch_unlocked (offset fetch : Option Fragment) :
    (offsetFetch ⟨.spanner, config⟩ offset fetch).unlocked =
      offsetFetch ⟨.spanner, config⟩ (offset.map Fragment.unlocked) (fetch.map Fragment.unlocked) := by
  simp [offsetFetch, Target.overrides, Dialect.overrides, Spanner.overrides, Spanner.limitOffset,
    standardPaging, Fragment.ifSome_map]

/-- Spanner notes that it takes no locks, and writes nothing. -/
theorem locking_unlocked (lock : LockOptions) : (locking ⟨.spanner, config⟩ lock).unlocked = .nil := rfl

theorem queryInScope_unlocked (parts : QueryParts) (scope : Scope) :
    (queryInScope ⟨.spanner, config⟩ parts scope).unlocked =
      queryInScope ⟨.spanner, config⟩ parts.unlocked scope := by
  have unnoted : (Fragment.ifSome parts.lock fun lock => (locking ⟨.spanner, config⟩ lock).unlocked) = .nil := by
    cases parts.lock with
    | none => rfl
    | some lock => exact locking_unlocked lock
  simp only [queryInScope, QueryParts.unlocked, Fragment.unlocked_append, Fragment.unlocked_inClause,
    Fragment.unlocked_onlyIf, Fragment.unlocked_text, Fragment.unlocked_separated, Fragment.unlocked_ifSome,
    RowValue.restriction_unlocked, RowValue.grouping_unlocked, selectClause_unlocked, offsetFetch_unlocked,
    List.isEmpty_map, unnoted]
  rfl

theorem queryOf_unlocked (parts : QueryParts) :
    (queryOf ⟨.spanner, config⟩ parts).unlocked = queryOf ⟨.spanner, config⟩ parts.unlocked :=
  congrArg (RenderedQuery.mk parts.unlocked) (funext (queryInScope_unlocked parts))

theorem queryPart_unlocked (nested : Query) (rendered : RenderedQuery) (names : List String) :
    (queryPart ⟨.spanner, config⟩ nested rendered names).unlocked =
      queryPart ⟨.spanner, config⟩ (nested.revise .unlocking) rendered.unlocked names := by
  have answer : (rendered.renamed nested names).unlocked =
      rendered.unlocked.renamed (nested.revise .unlocking) names := by
    rw [RenderedQuery.renamed, RenderedQuery.renamed, Query.namesRefused?_revise]
    cases nested.namesRefused? names with
    | none => exact Fragment.unlocked_parens _
    | some cause => rfl
  simp [queryPart, Target.overrides, Dialect.overrides, Spanner.overrides, answer]

end Render

theorem Spanner.derivedAlias_unlocked (table : DerivedTable) :
    (derivedAlias table).unlocked = derivedAlias { table with source := table.source.revise .unlocking } := by
  obtain ⟨origin, aliasName, names, lateral⟩ := table
  cases origin with
  | query nested => rfl
  | function call =>
    obtain ⟨name, args, returnType⟩ := call
    match names with
    | [] | _ :: _ :: _ => rfl
    | [column] =>
      by_cases unnest : name.toLower = "unnest" <;>
        simp [derivedAlias, functionAlias, DerivedSource.revise, FunctionCall.revise, unnest]

def RenderedSource.unlocked : RenderedSource → RenderedSource
  | .query nested rendered => .query (nested.revise .unlocking) rendered.unlocked
  | .function call rendered => .function (call.revise .unlocking) rendered.unlocked

namespace Render

variable {config : Config}

theorem derivedAlias_unlocked (table : DerivedTable) :
    (derivedAlias ⟨.spanner, config⟩ table).unlocked =
      derivedAlias ⟨.spanner, config⟩ { table with source := table.source.revise .unlocking } := by
  simp [derivedAlias, Target.overrides, Dialect.overrides, Spanner.overrides, Spanner.derivedAlias_unlocked,
    DerivedTable.aliasFragment]

theorem derivedTable_unlocked (table : DerivedTable) (source : RenderedSource) :
    (derivedTable ⟨.spanner, config⟩ table source).unlocked =
      derivedTable ⟨.spanner, config⟩ { table with source := table.source.revise .unlocking } source.unlocked := by
  have answer : (Spanner.derivedTable table source).map Fragment.unlocked =
      Spanner.derivedTable { table with source := table.source.revise .unlocking } source.unlocked := by
    simp only [Spanner.derivedTable, apply_ite (Option.map Fragment.unlocked), Option.map_some, Option.map_none]
    cases source with
    | function call rendered => simp [RenderedSource.unlocked, Spanner.derivedAlias_unlocked]
    | query nested rendered =>
      simp only [RenderedSource.unlocked, Query.namesRefused?_revise]
      cases nested.namesRefused? table.columnNames <;> simp [RenderedQuery.unlocked, DerivedTable.aliasFragment]
  cases source <;>
    simp [derivedTable, Target.overrides, Dialect.overrides, Spanner.overrides, answer, RenderedSource.unlocked,
      queryPart_unlocked, derivedAlias_unlocked]

@[simp] theorem join_unlocked (kind : JoinKind) (table : Fragment) (on : Option Fragment) :
    (join kind table on).unlocked = join kind table.unlocked (on.map Fragment.unlocked) := by
  simp [join, Fragment.ifSome_map]

end Render

end PortableSql
