import PortableSql.Proofs.Family

/-! Statements with their own contents.

A choice of contents puts them into the literals of a statement (`Statement.withContents`); the choice
that keeps what is there changes nothing, at any node.
-/

set_option autoImplicit false

namespace PortableSql

namespace Contents

@[simp] theorem below_own (branch : Nat) : own.below branch = own := rfl

end Contents

theorem Value.revise_own (value : Value) : value.revise Contents.own.revision = value :=
  value.revise_eq_self fun _ => rfl

mutual

theorem Expr.revise_own : (e : Expr) → e.revise Contents.own.revision = e
  | .star | .column _ | .parameter _ => rfl
  | .literal value => congrArg Expr.literal value.revise_own
  | .arithmetic left op right => by
    simp only [Expr.revise, Contents.revision_below, Contents.below_own, left.revise_own, right.revise_own]
  | .function call => congrArg Expr.function call.revise_own
  | .window call partitionBy orderBy => by
    simp only [Expr.revise, Contents.revision_below, Contents.below_own, call.revise_own,
      reviseExprs_own partitionBy, reviseSorts_own orderBy]
  | .tuple items => congrArg Expr.tuple (reviseExprs_own items)
  | .subquery quantifier nested => congrArg (Expr.subquery quantifier) nested.revise_own
  | .summarization kind groupings => congrArg (Expr.summarization kind) (reviseExprs_own groupings)

theorem reviseExprs_own : (exprs : List Expr) → reviseExprs Contents.own.revision exprs = exprs
  | [] => rfl
  | e :: rest => by
    simp only [reviseExprs, Contents.revision_below, Contents.below_own, e.revise_own, reviseExprs_own rest]

theorem FunctionCall.revise_own : (call : FunctionCall) → call.revise Contents.own.revision = call
  | ⟨name, args, returnType⟩ => by simp only [FunctionCall.revise, reviseExprs_own args]

theorem reviseSorts_own : (items : List SortItem) → reviseSorts Contents.own.revision items = items
  | [] => rfl
  | ⟨e, descending, nulls⟩ :: rest => by
    simp only [reviseSorts, Contents.revision_below, Contents.below_own, e.revise_own, reviseSorts_own rest]

theorem Predicate.revise_own : (p : Predicate) → p.revise Contents.own.revision = p
  | .comparison left op right => by
    simp only [Predicate.revise, Contents.revision_below, Contents.below_own, left.revise_own, right.revise_own]
  | .inList test values negated => by
    simp only [Predicate.revise, Contents.revision_below, Contents.below_own, test.revise_own,
      reviseExprs_own values]
  | .inSubquery test nested negated => by
    simp only [Predicate.revise, Contents.revision_below, Contents.below_own, test.revise_own, nested.revise_own]
  | .inArray test array => by
    simp only [Predicate.revise, Contents.revision_below, Contents.below_own, test.revise_own, array.revise_own]
  | .like ⟨e, pattern, none, caseSensitive, negated⟩ => by
    simp only [Predicate.revise, Contents.revision_below, Contents.below_own, e.revise_own, pattern.revise_own]
  | .like ⟨e, pattern, some escape, caseSensitive, negated⟩ => by
    simp only [Predicate.revise, Contents.revision_sparing, e.revise_own, pattern.revise_own, escape.revise_own]
  | .nullness e negated => by simp only [Predicate.revise, e.revise_own]
  | .between e low high negated => by
    simp only [Predicate.revise, Contents.revision_below, Contents.below_own, e.revise_own, low.revise_own,
      high.revise_own]
  | .existence nested negated => by simp only [Predicate.revise, nested.revise_own]
  | .junction kind parts => congrArg (Predicate.junction kind) (revisePredicates_own parts)
  | .negation inner => congrArg Predicate.negation inner.revise_own

theorem revisePredicates_own :
    (parts : List Predicate) → revisePredicates Contents.own.revision parts = parts
  | [] => rfl
  | p :: rest => by
    simp only [revisePredicates, Contents.revision_below, Contents.below_own, p.revise_own,
      revisePredicates_own rest]

theorem reviseCondition_own :
    (restriction : Option Predicate) → reviseCondition Contents.own.revision restriction = restriction
  | none => rfl
  | some p => congrArg some p.revise_own

theorem reviseOptional_own : (value : Option Expr) → reviseOptional Contents.own.revision value = value
  | none => rfl
  | some e => congrArg some e.revise_own

theorem Query.revise_own : (q : Query) → q.revise Contents.own.revision = q
  | ⟨_, selections, sources, restriction, groupBy, having, orderBy, offset, fetch, _⟩ => by
    simp only [Query.revise, Contents.revision_below, Contents.below_own, reviseSelections_own selections,
      reviseGroups_own sources, reviseCondition_own restriction, reviseExprs_own groupBy,
      reviseCondition_own having, reviseSorts_own orderBy, reviseOptional_own offset, reviseOptional_own fetch,
      Contents.keepsLocks_revision, if_true]

theorem reviseSelections_own :
    (selections : List Selection) → reviseSelections Contents.own.revision selections = selections
  | [] => rfl
  | ⟨e, aliasName⟩ :: rest => by
    simp only [reviseSelections, Contents.revision_below, Contents.below_own, e.revise_own,
      reviseSelections_own rest]

theorem reviseGroups_own : (sources : List TableGroup) → reviseGroups Contents.own.revision sources = sources
  | [] => rfl
  | ⟨primary, joins⟩ :: rest => by
    simp only [reviseGroups, Contents.revision_below, Contents.below_own, primary.revise_own,
      reviseJoins_own joins, reviseGroups_own rest]

theorem reviseJoins_own : (joins : List Join) → reviseJoins Contents.own.revision joins = joins
  | [] => rfl
  | ⟨kind, table, on⟩ :: rest => by
    simp only [reviseJoins, Contents.revision_below, Contents.below_own, table.revise_own,
      reviseCondition_own on, reviseJoins_own rest]

theorem TableRef.revise_own : (from_ : TableRef) → from_.revise Contents.own.revision = from_
  | .named _ => rfl
  | .derived ⟨source, aliasName, columnNames, lateral⟩ => by simp only [TableRef.revise, source.revise_own]

theorem DerivedSource.revise_own : (source : DerivedSource) → source.revise Contents.own.revision = source
  | .query nested => congrArg DerivedSource.query nested.revise_own
  | .function call => congrArg DerivedSource.function call.revise_own

end

theorem Contents.each_own {α : Type} {revise : Revision → α → α}
    (same : ∀ a, revise Contents.own.revision a = a) (list : List α) :
    Contents.own.revision.each revise list = list := by
  rw [Revision.each_eq_map fun _ => rfl, List.map_congr_left fun a _ => same a, List.map_id']

namespace Revision

theorem assignment_own (item : Assignment) : Contents.own.revision.assignment item = item := by
  rw [assignment, Expr.revise_own]

theorem source_own (source : InsertSource) : Contents.own.revision.source source = source := by
  cases source with
  | values rows => exact congrArg InsertSource.values (Contents.each_own reviseExprs_own rows)
  | query nested => exact congrArg InsertSource.query nested.revise_own

theorem action_own (action : ConflictAction) : Contents.own.revision.action action = action := by
  cases action with
  | doNothing => rfl
  | doUpdate items => exact congrArg ConflictAction.doUpdate (Contents.each_own assignment_own items)

theorem conflict_own (clause : Conflict) : Contents.own.revision.conflict clause = clause := by
  simp only [conflict, Contents.revision_below, Contents.below_own, action_own, reviseCondition_own]

end Revision

namespace Statement

/-- A statement with other contents in its string literals, save those inside a match with an escape. -/
def withContents (statement : Statement) (contents : Contents) : Statement :=
  statement.revise contents.revision

theorem withContents_own (statement : Statement) : statement.withContents .own = statement := by
  cases statement with
  | select nested => exact congrArg select nested.revise_own
  | insert change =>
    obtain ⟨table, columns, source, conflict, returning⟩ := change
    simp only [withContents, revise, Contents.revision_below, Contents.below_own, Revision.source_own]
    cases conflict with
    | none => rfl
    | some clause => simp only [Option.map_some, Revision.conflict_own]
  | update change =>
    simp only [withContents, revise, Contents.revision_below, Contents.below_own,
      Contents.each_own Revision.assignment_own, reviseCondition_own]
  | delete change => simp only [withContents, revise, reviseCondition_own]

end Statement

end PortableSql
