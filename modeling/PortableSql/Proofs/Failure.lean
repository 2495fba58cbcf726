import PortableSql.Proofs.Added
import PortableSql.Proofs.Truth

/-! When a fragment fails.

A fragment that is put together from others fails if and only if one of them does; an expansion of a
comparison of rows also fails if there is nothing to compare, or no partner for an element.
-/

set_option autoImplicit false

namespace PortableSql

namespace Fragment

def Fails (fragment : Fragment) : Prop :=
  fragment.failure.isSome = true

@[simp] theorem fails_nil : ¬ nil.Fails := nofun

@[simp] theorem fails_mark (mark : Mark) : ¬ (Fragment.mark mark).Fails := nofun

@[simp] theorem fails_text (words : String) : ¬ (text words).Fails := nofun

@[simp] theorem fails_literal (content : String) : ¬ (literal content).Fails := nofun

@[simp] theorem fails_placeholder (parameter : Parameter) : ¬ (placeholder parameter).Fails := nofun

@[simp] theorem fails_table (name : String) : ¬ (table name).Fails := nofun

@[simp] theorem fails_names (list : List String) : ¬ (names list).Fails := nofun

@[simp] theorem fails_fail (cause : Error) : (fail cause).Fails := rfl

@[simp] theorem fails_append (first second : Fragment) :
    (first ++ second).Fails ↔ first.Fails ∨ second.Fails := by
  simp [Fails, failure_append]

@[simp] theorem fails_parens (fragment : Fragment) : (parens fragment).Fails ↔ fragment.Fails := by
  simp [parens]

@[simp] theorem fails_inClause (clause : Clause) (fragment : Fragment) :
    (inClause clause fragment).Fails ↔ fragment.Fails := Iff.rfl

@[simp] theorem fails_onlyIf (condition : Bool) (fragment : Fragment) :
    (onlyIf condition fragment).Fails ↔ condition = true ∧ fragment.Fails := by
  cases condition <;> simp [onlyIf]

@[simp] theorem fails_ifSome {α : Type} (value : Option α) (render : α → Fragment) :
    (ifSome value render).Fails ↔ ∃ a, value = some a ∧ (render a).Fails := by
  cases value <;> simp [ifSome]

@[simp] theorem fails_offer (construct : Construct) (answer : Option Fragment) (standard : Fragment) :
    (offer construct answer standard).Fails ↔ (answer.getD standard).Fails := by
  simp [offer]

@[simp] theorem fails_separated (separator : String) (fragments : List Fragment) :
    (separated separator fragments).Fails ↔ ∃ fragment ∈ fragments, fragment.Fails := by
  rw [Fails, failure_separated, List.findSome?_isSome_iff]
  rfl

theorem fails_rendering (config : Config) (fragment : Fragment) :
    (∃ cause, fragment.rendering config = .error cause) ↔ fragment.Fails := by
  rw [Fails, Option.isSome_iff_exists]
  cases failed : fragment.failure <;> simp [rendering, failed]

end Fragment

@[simp] theorem Value.fragment_fails (config : Config) (value : Value) :
    ¬ (value.fragment config).Fails := by
  cases value <;> simp [Value.fragment]

@[simp] theorem ColumnRef.fragment_fails (column : ColumnRef) : ¬ column.fragment.Fails := by
  simp [ColumnRef.fragment]

@[simp] theorem Fragment.aliasText_fails (aliasName : String) : ¬ (aliasText aliasName).Fails := by
  simp [aliasText]

@[simp] theorem NamedTable.fragment_fails (table : NamedTable) : ¬ table.fragment.Fails := by
  simp [NamedTable.fragment]

namespace RowValue

@[simp] theorem compare_fails (left : Fragment) (op : ComparisonOp) (right : Fragment) :
    (compare left op right).Fails ↔ left.Fails ∨ right.Fails := by
  simp [compare]

theorem pairwise_fails {left right : List Fragment} (op : ComparisonOp)
    (same : left.length = right.length) :
    (∃ test ∈ pairwise op left right, test.Fails) ↔
      (∃ l ∈ left, l.Fails) ∨ ∃ r ∈ right, r.Fails := by
  induction left generalizing right with
  | nil => simp [pairwise, List.length_eq_zero_iff.mp same.symm]
  | cons l left ih =>
    obtain ⟨r, right, rfl⟩ := List.exists_cons_of_length_eq_add_one same.symm
    have rest := ih (Nat.succ.inj same)
    simp only [pairwise] at rest
    simp only [pairwise, List.zipWith_cons_cons, List.exists_mem_cons_iff, compare_fails, rest]
    grind

theorem lexicographic_fails {left right : List Fragment} (op : ComparisonOp) (ranges : Bool)
    (same : left.length = right.length) (inhabited : left ≠ []) :
    (lexicographic op ranges left right).Fails ↔ (∃ l ∈ left, l.Fails) ∨ ∃ r ∈ right, r.Fails := by
  induction left, right, same, inhabited using Row.induction with
  | single l r => simp [lexicographic]
  | more l r l' r' left right same ih =>
    rw [lexicographic, List.exists_mem_cons_iff, List.exists_mem_cons_iff (a := r)]
    · have bracketed (p : Prop) [Decidable p] (rest : Fragment) :
          (if p then Fragment.parens rest else rest).Fails ↔ rest.Fails := by
        split <;> simp
      cases ranges <;> simp [bracketed, ih] <;> grind
    · nofun

/-- An expansion fails if the rows cannot be compared, or an element fails. -/
theorem expand_fails {op : ComparisonOp} (comparable : op.isDistinctness = false) (ranges : Bool)
    (left right : List Fragment) :
    (expand ranges left right op).Fails ↔
      (left.length ≠ right.length ∨ left = [] ∧ right = []) ∨
        (∃ l ∈ left, l.Fails) ∨ ∃ r ∈ right, r.Fails := by
  by_cases same : left.length = right.length
  · match left, right, same with
    | [], [], _ => simp [expand]
    | [l], [r], _ => simp [expand]
    | l :: l' :: left, r :: r' :: right, same =>
      have ordered (op : ComparisonOp) := lexicographic_fails op ranges same (List.cons_ne_nil l _)
      have paired (op : ComparisonOp) := pairwise_fails op same
      cases op with
      | distinctFrom | notDistinctFrom => contradiction
      | eq | ne => simp_all [expand]
      | lt | lte | gt | gte => simp_all [expand]
  · simp [expand, same]

@[simp] theorem restriction_fails (clause : Clause) (keyword : String) (condition : Option Fragment) :
    (restriction clause keyword condition).Fails ↔
      ∃ fragment, condition = some fragment ∧ fragment.Fails := by
  simp [restriction]

@[simp] theorem grouping_fails (items : List Fragment) :
    (grouping items).Fails ↔ ∃ item ∈ items, item.Fails := by
  cases items <;> simp [grouping]

/-- An existence test fails if the rows of the query are cut off, or a part that it has does. -/
theorem existence_fails {compareRows : RowComparison} {row : List Fragment} {query : QueryParts}
    {op : ComparisonOp} {negated : Bool}
    (ungrouped : query.groupBy = [] → query.hasHaving = false → query.having = none) :
    (existence compareRows row query op negated).Fails ↔
      query.fetch.isSome = true ∨ query.offset.isSome = true ∨
      (∃ source ∈ query.sources, source.Fails) ∨
      (∃ condition, query.restriction = some condition ∧ condition.Fails) ∨
      (∃ item ∈ query.groupBy, item.Fails) ∨
      (∃ condition, query.having = some condition ∧ condition.Fails) ∨
      (compareRows (query.selections.map Prod.fst) row op.invert).Fails := by
  rw [existence]
  split
  · simp_all [← or_assoc]
  · next unlimited =>
    have listed : (Fragment.onlyIf (!query.sources.isEmpty)
        (.text " from " ++ .separated "," query.sources)).Fails ↔ ∃ source ∈ query.sources, source.Fails := by
      cases query.sources <;> simp
    have whole : query.fetch = none ∧ query.offset = none := by simpa using unlimited
    cases items : query.groupBy with
    | cons item items => simp [listed, whole, or_assoc]
    | nil =>
      cases present : query.hasHaving with
      | true => simp [listed, whole, or_assoc]
      | false => simp [listed, whole, ungrouped items present, or_assoc]

end RowValue

namespace Render

variable (target : Target)

@[simp] theorem functionOf_fails (name : String) (args : List Fragment) :
    (functionOf name args).Fails ↔ ∃ arg ∈ args, arg.Fails := by
  simp [functionOf]

@[simp] theorem arithmetic_fails (left : Expr) (op : ArithmeticOp) (right : Expr) (l r : Fragment) :
    (arithmetic target left op right l r).Fails ↔ l.Fails ∨ r.Fails := by
  have standard : (standardArithmetic l op r).Fails ↔ l.Fails ∨ r.Fails := by
    rw [standardArithmetic]
    split <;> simp
  obtain ⟨dialect, config⟩ := target
  cases dialect with
  | generic => simpa [arithmetic, Target.overrides, Dialect.overrides, Overrides.none] using standard
  | spanner =>
    simp only [arithmetic, Target.overrides, Dialect.overrides, Spanner.overrides, Spanner.arithmetic,
      Fragment.fails_offer]
    split <;> simp [standard]

@[simp] theorem sortItem_fails (rendered : Fragment) (descending : Bool)
    (nulls : Option NullPrecedence) :
    (sortItem rendered descending nulls).Fails ↔ rendered.Fails := by
  simp [sortItem]

@[simp] theorem window_fails (call : Fragment) (partitionBy orderBy : List Fragment) :
    (window call partitionBy orderBy).Fails ↔
      call.Fails ∨ (∃ item ∈ partitionBy, item.Fails) ∨ ∃ item ∈ orderBy, item.Fails := by
  cases partitionBy <;> cases orderBy <;> simp [window, or_assoc]

@[simp] theorem inList_fails (test : Fragment) (values : List Fragment) (negated : Bool) :
    (inList test values negated).Fails ↔
      values ≠ [] ∧ (test.Fails ∨ ∃ value ∈ values, value.Fails) := by
  cases values <;> simp [inList]

@[simp] theorem inArray_fails (test array : Fragment) :
    (inArray target test array).Fails ↔ test.Fails ∨ array.Fails := by
  obtain ⟨dialect, config⟩ := target
  cases dialect <;>
    simp [inArray, Target.overrides, Dialect.overrides, Overrides.none, Spanner.overrides]

@[simp] theorem join_fails (kind : JoinKind) (table : Fragment) (on : Option Fragment) :
    (join kind table on).Fails ↔ table.Fails ∨ ∃ condition, on = some condition ∧ condition.Fails := by
  simp [join]

theorem aliased_fails (selections : List (Fragment × Option String)) (forced : List String) :
    (∃ selected ∈ aliased selections forced, selected.Fails) ↔
      ∃ selection ∈ selections, selection.1.Fails := by
  induction selections generalizing forced with
  | nil => simp [aliased]
  | cons selection selections ih =>
    cases forced <;> simp only [aliased, List.exists_mem_cons_iff, ih] <;> simp

theorem selectClause_fails (distinct : Bool) (scope : Scope)
    (rendered : List (Fragment × Option String)) :
    (selectClause target distinct scope rendered).Fails ↔ ∃ selection ∈ rendered, selection.1.Fails := by
  have list : (selections scope rendered).Fails ↔ ∃ selection ∈ rendered, selection.1.Fails := by
    rw [← aliased_fails rendered scope.aliases]
    cases rendered <;> simp [selections, aliased]
  obtain ⟨dialect, config⟩ := target
  cases dialect <;>
    simp [selectClause, Target.overrides, Dialect.overrides, Overrides.none, Spanner.overrides,
      Spanner.selectClause, list]

theorem offsetFetch_fails (offset fetch : Option Fragment) :
    (offsetFetch target offset fetch).Fails ↔
      (∃ value, offset = some value ∧ value.Fails) ∨ ∃ value, fetch = some value ∧ value.Fails := by
  obtain ⟨dialect, config⟩ := target
  cases dialect <;>
    simp [offsetFetch, Target.overrides, Dialect.overrides, Overrides.none, Spanner.overrides,
      Spanner.limitOffset, standardPaging, or_comm]

@[simp] theorem locking_fails (lock : LockOptions) : ¬ (locking target lock).Fails := by
  simp [locking]

/-- A query fails if one of its parts does, in any scope. -/
theorem queryInScope_fails (parts : QueryParts) (scope : Scope) :
    (queryInScope target parts scope).Fails ↔
      (∃ selection ∈ parts.selections, selection.1.Fails) ∨
      (∃ group ∈ parts.sources, group.Fails) ∨
      (∃ condition, parts.restriction = some condition ∧ condition.Fails) ∨
      (∃ item ∈ parts.groupBy, item.Fails) ∨
      (∃ condition, parts.having = some condition ∧ condition.Fails) ∨
      (∃ item ∈ parts.orderBy, item.Fails) ∨
      (∃ value, parts.offset = some value ∧ value.Fails) ∨
      ∃ value, parts.fetch = some value ∧ value.Fails := by
  have listed (keyword : String) (clause : Clause) (items : List Fragment) :
      (Fragment.onlyIf (!items.isEmpty)
        (.inClause clause (.text keyword ++ .separated "," items))).Fails ↔
      ∃ item ∈ items, item.Fails := by
    cases items <;> simp
  simp only [queryInScope, Fragment.fails_append, Fragment.fails_inClause, selectClause_fails, listed,
    RowValue.restriction_fails, RowValue.grouping_fails, offsetFetch_fails, Fragment.fails_ifSome, locking_fails,
    and_false, exists_false, or_false, or_assoc]

end Render

end PortableSql
