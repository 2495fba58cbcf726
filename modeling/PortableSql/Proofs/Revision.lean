import PortableSql.Dialect.Spanner
import PortableSql.Proofs.Node

/-! Revisions of a statement.

A revision puts new contents into string literals, by their path and their content, and leaves out
optional predicates or locks. A literal inside a match with an escape keeps its content, because there
it says how the match is to be read. Nothing else of a statement changes.
-/

set_option autoImplicit false

namespace PortableSql

/-- The way from a node down to one of its parts, by numbers of branches. -/
abbrev Path := List Nat

structure Revision where
  content : Path → String → String := fun _ text => text
  -- Whether an optional predicate stays.
  keeps : Predicate → Bool := fun _ => true
  -- Whether the queries keep their locks.
  keepsLocks : Bool := true

namespace Revision

/-- The revision below a branch. -/
def below (r : Revision) (branch : Nat) : Revision :=
  { r with content := fun path => r.content (branch :: path) }

/-- The revision that keeps all contents. -/
def sparing (r : Revision) : Revision :=
  { r with content := fun _ text => text }

-- Revise the elements of a list, each below a branch of its own.
def each {α : Type} (revise : Revision → α → α) (r : Revision) : List α → List α
  | [] => []
  | a :: rest => revise (r.below 0) a :: each revise (r.below 1) rest

end Revision

def Value.revise (r : Revision) : Value → Value
  | .string text => .string (r.content [] text)
  | value => value

mutual

def Expr.revise (r : Revision) : Expr → Expr
  | .star => .star
  | .literal value => .literal (value.revise r)
  | .column column => .column column
  | .parameter parameter => .parameter parameter
  | .arithmetic left op right => .arithmetic (left.revise (r.below 0)) op (right.revise (r.below 1))
  | .function call => .function (call.revise r)
  | .window call partitionBy orderBy =>
    .window (call.revise (r.below 0)) (reviseExprs (r.below 1) partitionBy)
      (reviseSorts (r.below 2) orderBy)
  | .tuple items => .tuple (reviseExprs r items)
  | .subquery quantifier nested => .subquery quantifier (nested.revise r)
  | .summarization kind groupings => .summarization kind (reviseExprs r groupings)

def reviseExprs (r : Revision) : List Expr → List Expr
  | [] => []
  | expr :: rest => expr.revise (r.below 0) :: reviseExprs (r.below 1) rest

def FunctionCall.revise (r : Revision) : FunctionCall → FunctionCall
  | ⟨name, args, returnType⟩ => ⟨name, reviseExprs r args, returnType⟩

def reviseSorts (r : Revision) : List SortItem → List SortItem
  | [] => []
  | ⟨expr, descending, nulls⟩ :: rest =>
    ⟨expr.revise (r.below 0), descending, nulls⟩ :: reviseSorts (r.below 1) rest

def Predicate.revise (r : Revision) : Predicate → Predicate
  | .comparison left op right => .comparison (left.revise (r.below 0)) op (right.revise (r.below 1))
  | .inList test values negated =>
    .inList (test.revise (r.below 0)) (reviseExprs (r.below 1) values) negated
  | .inSubquery test nested negated =>
    .inSubquery (test.revise (r.below 0)) (nested.revise (r.below 1)) negated
  | .inArray test array => .inArray (test.revise (r.below 0)) (array.revise (r.below 1))
  | .like ⟨expr, pattern, none, caseSensitive, negated⟩ =>
    .like ⟨expr.revise (r.below 0), pattern.revise (r.below 1), none, caseSensitive, negated⟩
  | .like ⟨expr, pattern, some escape, caseSensitive, negated⟩ =>
    .like ⟨expr.revise r.sparing, pattern.revise r.sparing, some (escape.revise r.sparing),
      caseSensitive, negated⟩
  | .nullness expr negated => .nullness (expr.revise r) negated
  | .between expr low high negated =>
    .between (expr.revise (r.below 0)) (low.revise (r.below 1)) (high.revise (r.below 2)) negated
  | .existence nested negated => .existence (nested.revise r) negated
  | .junction kind parts => .junction kind (revisePredicates r parts)
  | .negation inner => .negation (inner.revise r)

def revisePredicates (r : Revision) : List Predicate → List Predicate
  | [] => []
  | part :: rest => part.revise (r.below 0) :: revisePredicates (r.below 1) rest

/-- An optional predicate stays if the revision keeps it. -/
def reviseCondition (r : Revision) : Option Predicate → Option Predicate
  | none => none
  | some predicate => if r.keeps predicate then some (predicate.revise r) else none

def reviseOptional (r : Revision) : Option Expr → Option Expr
  | none => none
  | some expr => some (expr.revise r)

def Query.revise (r : Revision) : Query → Query
  | ⟨distinct, selections, sources, restriction, groupBy, having, orderBy, offset, fetch, lock⟩ =>
    { distinct
      selections := reviseSelections (r.below 0) selections
      sources := reviseGroups (r.below 1) sources
      restriction := reviseCondition (r.below 2) restriction
      groupBy := reviseExprs (r.below 3) groupBy
      having := reviseCondition (r.below 4) having
      orderBy := reviseSorts (r.below 5) orderBy
      offset := reviseOptional (r.below 6) offset
      fetch := reviseOptional (r.below 7) fetch
      lock := if r.keepsLocks then lock else none }

def reviseSelections (r : Revision) : List Selection → List Selection
  | [] => []
  | ⟨expr, aliasName⟩ :: rest => ⟨expr.revise (r.below 0), aliasName⟩ :: reviseSelections (r.below 1) rest

def reviseGroups (r : Revision) : List TableGroup → List TableGroup
  | [] => []
  | ⟨primary, joins⟩ :: rest =>
    ⟨primary.revise ((r.below 0).below 0), reviseJoins ((r.below 0).below 1) joins⟩ ::
      reviseGroups (r.below 1) rest

def reviseJoins (r : Revision) : List Join → List Join
  | [] => []
  | ⟨kind, table, on⟩ :: rest =>
    ⟨kind, table.revise ((r.below 0).below 0), reviseCondition ((r.below 0).below 1) on⟩
      :: reviseJoins (r.below 1) rest

def TableRef.revise (r : Revision) : TableRef → TableRef
  | .named table => .named table
  | .derived ⟨source, aliasName, columnNames, lateral⟩ =>
    .derived ⟨source.revise r, aliasName, columnNames, lateral⟩

def DerivedSource.revise (r : Revision) : DerivedSource → DerivedSource
  | .query nested => .query (nested.revise r)
  | .function call => .function (call.revise r)

end

namespace Revision

def assignment (r : Revision) (item : Assignment) : Assignment :=
  { item with value := item.value.revise r }

def source (r : Revision) : InsertSource → InsertSource
  | .values rows => .values (r.each reviseExprs rows)
  | .query nested => .query (nested.revise r)

def action (r : Revision) : ConflictAction → ConflictAction
  | .doNothing => .doNothing
  | .doUpdate items => .doUpdate (r.each assignment items)

def conflict (r : Revision) (clause : Conflict) : Conflict :=
  { clause with
    action := (r.below 0).action clause.action
    predicate := reviseCondition (r.below 1) clause.predicate }

end Revision

def Statement.revise (r : Revision) : Statement → Statement
  | .select nested => .select (nested.revise r)
  | .insert nested => .insert { nested with
      source := (r.below 0).source nested.source
      conflict := nested.conflict.map (r.below 1).conflict }
  | .update nested => .update { nested with
      assignments := (r.below 0).each Revision.assignment nested.assignments
      restriction := reviseCondition (r.below 1) nested.restriction }
  | .delete nested => .delete { nested with restriction := reviseCondition r nested.restriction }

def TableGroup.revise (r : Revision) (group : TableGroup) : TableGroup :=
  ⟨group.primary.revise (r.below 0), reviseJoins (r.below 1) group.joins⟩

def Node.revise (r : Revision) : Node → Node
  | .statement node => .statement (node.revise r)
  | .query node => .query (node.revise r)
  | .group node => .group (node.revise r)
  | .table node => .table (node.revise r)
  | .predicate node => .predicate (node.revise r)
  | .expr node => .expr (node.revise r)
  | .item node => .item (node.revise r)

def Selection.revise (r : Revision) (selection : Selection) : Selection :=
  { selection with expr := selection.expr.revise r }

def SortItem.revise (r : Revision) (item : SortItem) : SortItem :=
  { item with expr := item.expr.revise r }

def Join.revise (r : Revision) (joined : Join) : Join :=
  { joined with
    table := joined.table.revise (r.below 0)
    on := reviseCondition (r.below 1) joined.on }

/-! The lists of a statement are revised element by element. -/

/-- A revision that is the same below every branch revises all elements alike. -/
theorem Revision.each_eq_map {r : Revision} (same : ∀ branch, r.below branch = r) {α : Type}
    (revise : Revision → α → α) (elements : List α) : r.each revise elements = elements.map (revise r) := by
  induction elements with
  | nil => rfl
  | cons a rest ih => simp only [each, same, ih, List.map_cons]

theorem reviseExprs_eq (r : Revision) (exprs : List Expr) : reviseExprs r exprs = r.each Expr.revise exprs := by
  induction exprs generalizing r with
  | nil => rfl
  | cons expr rest ih => simp only [reviseExprs, Revision.each, ih]

theorem reviseSorts_eq (r : Revision) (items : List SortItem) :
    reviseSorts r items = r.each SortItem.revise items := by
  induction items generalizing r with
  | nil => rfl
  | cons item rest ih =>
    cases item
    simp only [reviseSorts, Revision.each, ih, SortItem.revise]

theorem revisePredicates_eq (r : Revision) (parts : List Predicate) :
    revisePredicates r parts = r.each Predicate.revise parts := by
  induction parts generalizing r with
  | nil => rfl
  | cons part rest ih => simp only [revisePredicates, Revision.each, ih]

theorem reviseSelections_eq (r : Revision) (selections : List Selection) :
    reviseSelections r selections = r.each Selection.revise selections := by
  induction selections generalizing r with
  | nil => rfl
  | cons selection rest ih =>
    cases selection
    simp only [reviseSelections, Revision.each, ih, Selection.revise]

theorem reviseGroups_eq (r : Revision) (sources : List TableGroup) :
    reviseGroups r sources = r.each TableGroup.revise sources := by
  induction sources generalizing r with
  | nil => rfl
  | cons source rest ih =>
    cases source
    simp only [reviseGroups, Revision.each, ih, TableGroup.revise]

theorem reviseJoins_eq (r : Revision) (joins : List Join) :
    reviseJoins r joins = r.each Join.revise joins := by
  induction joins generalizing r with
  | nil => rfl
  | cons joined rest ih =>
    cases joined
    simp only [reviseJoins, Revision.each, ih, Join.revise]

/-- A value stays if a string in its place keeps its content. -/
theorem Value.revise_eq_self {r : Revision} (same : ∀ text, r.content [] text = text) (value : Value) :
    value.revise r = value := by
  cases value with
  | string text => exact congrArg Value.string (same text)
  | null | bool | int | float | date | timestamp => rfl

/-! A revision changes neither types nor the forms that a rendering looks at. -/

theorem Value.sqlType_revise (r : Revision) (value : Value) :
    (value.revise r).sqlType = value.sqlType := by
  cases value <;> rfl

mutual

theorem Expr.sqlType_revise (r : Revision) : (e : Expr) → (e.revise r).sqlType = e.sqlType
  | .star | .column _ | .parameter _ | .tuple _ | .summarization _ _ => rfl
  | .literal value => value.sqlType_revise r
  | .arithmetic left op right => by
    simp only [Expr.revise, Expr.sqlType, left.sqlType_revise, right.sqlType_revise]
  | .function ⟨_, _, _⟩ | .window ⟨_, _, _⟩ _ _ => rfl
  | .subquery quantifier nested => by
    cases quantifier with
    | one => exact nested.sqlType_revise r
    | any | every => rfl

theorem Query.sqlType_revise (r : Revision) : (q : Query) → (q.revise r).sqlType = q.sqlType
  | ⟨_, selections, _, _, _, _, _, _, _, _⟩ => Selection.firstType_revise (r.below 0) selections

theorem Selection.firstType_revise (r : Revision) :
    (selections : List Selection) →
      Selection.firstType (reviseSelections r selections) = Selection.firstType selections
  | [] => rfl
  | ⟨expr, _⟩ :: _ => expr.sqlType_revise (r.below 0)

end

mutual

theorem Predicate.isEmpty_revise (r : Revision) : (p : Predicate) → (p.revise r).isEmpty = p.isEmpty
  | .comparison _ _ _ | .inList _ _ _ | .inSubquery _ _ _ | .inArray _ _ | .nullness _ _
  | .between _ _ _ _ | .existence _ _ => rfl
  | .like ⟨_, _, none, _, _⟩ | .like ⟨_, _, some _, _, _⟩ => rfl
  | .junction _ parts => Predicate.allEmpty_revise r parts
  | .negation inner => inner.isEmpty_revise r

theorem Predicate.allEmpty_revise (r : Revision) :
    (parts : List Predicate) →
      Predicate.allEmpty (revisePredicates r parts) = Predicate.allEmpty parts
  | [] => rfl
  | part :: rest => by
    simp only [revisePredicates, Predicate.allEmpty, part.isEmpty_revise, allEmpty_revise (r.below 1) rest]

end

/-- A revision that keeps every predicate with an atom keeps what is restricted. -/
theorem Predicate.restricts_revise {r : Revision}
    (keeps : ∀ p : Predicate, p.isEmpty = false → r.keeps p = true) (restriction : Option Predicate) :
    restricts (reviseCondition r restriction) = restricts restriction := by
  cases restriction with
  | none => rfl
  | some p =>
    cases empty : p.isEmpty with
    | true =>
      cases kept : r.keeps p <;>
        simp [reviseCondition, restricts, effective?, empty, kept, isEmpty_revise]
    | false => simp [reviseCondition, restricts, effective?, empty, keeps p empty, isEmpty_revise]

/-- A revision that keeps every predicate revises the optional ones as the others. -/
theorem reviseCondition_eq_map {r : Revision} (keeps : ∀ p, r.keeps p = true) (restriction : Option Predicate) :
    reviseCondition r restriction = restriction.map (Predicate.revise r) := by
  cases restriction with
  | none => rfl
  | some p => rw [reviseCondition, if_pos (keeps p), Option.map_some]

theorem Spanner.conflictRefused?_revise {r : Revision}
    (keeps : ∀ p : Predicate, p.isEmpty = false → r.keeps p = true) (clause : Conflict) :
    conflictRefused? (r.conflict clause) = conflictRefused? clause := by
  have kept (p : Predicate) (inhabited : p.isEmpty = false) : (r.below 1).keeps p = true := keeps p inhabited
  simp only [conflictRefused?, Revision.conflict, Predicate.restricts_revise kept]

theorem ConflictAction.isUpdate_revise (r : Revision) (action : ConflictAction) :
    (r.action action).isUpdate = action.isUpdate := by
  cases action <;> rfl

theorem Predicate.isSeveral_revise (r : Revision) (p : Predicate) :
    (p.revise r).isSeveral = p.isSeveral := by
  cases p with
  | junction kind parts =>
    match parts with
    | [] | [_] | _ :: _ :: _ => rfl
  | like node =>
    obtain ⟨_, _, escape, _, _⟩ := node
    cases escape <;> rfl
  | comparison | inList | inSubquery | inArray | nullness | between | existence | negation => rfl

theorem ArithmeticOp.isIntegerDivision_revise (r₁ r₂ : Revision) (left : Expr) (op : ArithmeticOp)
    (right : Expr) :
    op.isIntegerDivision (left.revise r₁) (right.revise r₂) = op.isIntegerDivision left right := by
  simp only [isIntegerDivision, Expr.sqlType_revise]

theorem Expr.isStar_revise (r : Revision) (e : Expr) : (e.revise r).isStar = e.isStar := by
  cases e <;> rfl

theorem Revision.length_each {α : Type} (revise : Revision → α → α) (r : Revision)
    (elements : List α) : (r.each revise elements).length = elements.length := by
  induction elements generalizing r with
  | nil => rfl
  | cons a rest ih => rw [each, List.length_cons, List.length_cons, ih]

theorem Query.namesRefused?_revise (r : Revision) (nested : Query) (names : List String) :
    (nested.revise r).namesRefused? names = nested.namesRefused? names := by
  have stars (r : Revision) (selections : List Selection) :
      (r.each Selection.revise selections).any (·.expr.isStar) = selections.any (·.expr.isStar) := by
    induction selections generalizing r with
    | nil => rfl
    | cons selection rest ih =>
      simp only [Revision.each, List.any_cons, ih, Selection.revise, Expr.isStar_revise]
  cases nested
  simp only [namesRefused?, revise, reviseSelections_eq, stars, Revision.length_each]

theorem Expr.string?_eq_some {e : Expr} {text : String} :
    e.string? = some text ↔ e = .literal (.string text) := by
  cases e with
  | literal value => cases value <;> simp [Expr.string?]
  | star | column | parameter | arithmetic | function | window | tuple | subquery | summarization =>
    simp [Expr.string?]

theorem Expr.string?_revise {r : Revision} (same : ∀ text, r.content [] text = text) (e : Expr) :
    (e.revise r).string? = e.string? := by
  cases e with
  | literal value => rw [revise, value.revise_eq_self same]
  | star | column | parameter | arithmetic | function | window | tuple | subquery | summarization => rfl

theorem Pattern.escape?_revise {r : Revision} (same : ∀ text, r.content [] text = text) (escape : Expr) :
    escape? (escape.revise r) = escape? escape := by
  rw [escape?, escape?, escape.string?_revise same]

end PortableSql
