import PortableSql.Proofs.Revision
import PortableSql.Proofs.Traversal

/-! The forms that a comparison takes in Spanner.

A comparison with the rows of a query is a membership, or an existence test if its other operand is a
row value; distinctness is a test for a common row, rows are compared element by element, and what is
left is written as it stands.
-/

set_option autoImplicit false

namespace PortableSql

-- The operator of the existence test for a comparison, and whether the test is negated.
def Quantifier.existenceOp : Quantifier → ComparisonOp → ComparisonOp × Bool
  | .any, op => (op, false)
  | .every, op => (op.negate, true)
  | .one, op => if op = .ne then (.eq, true) else (op, false)

namespace Spanner

inductive ComparisonForm where
  | membership (left : Expr) (nested : Query) (negated : Bool)
  | intersection (left right : Expr) (negated : Bool)
  | rows (left right : List Expr) (op : ComparisonOp)
  -- A test for a row of a query that compares with a row value.
  | existence (row : List Expr) (nested : Query) (op : ComparisonOp) (negated : Bool)
  | native (left : Expr) (op : ComparisonOp) (right : Expr)

namespace ComparisonForm

def of (left : Expr) (op : ComparisonOp) (right : Expr) : ComparisonForm :=
  if op.isDistinctness then .intersection left right (op == .distinctFrom)
  else match right with
    | .subquery quantifier nested =>
      if op = .eq ∧ quantifier = .any ∨ op = .ne ∧ quantifier = .every then
        .membership left nested (op == .ne)
      else match left with
        | .tuple row =>
          .existence row nested (quantifier.existenceOp op).1 (quantifier.existenceOp op).2
        | left => .native left op right
    | .tuple others =>
      match left with
      | .tuple row => .rows row others op
      | left => .native left op right
    | right => .native left op right

/-- The forms that a comparison can take, and of which operands. -/
theorem of_cases {motive : ComparisonForm → Prop} (left : Expr) (op : ComparisonOp) (right : Expr)
    (intersection : motive (.intersection left right (op == .distinctFrom)))
    (membership : ∀ quantifier nested, right = .subquery quantifier nested →
      motive (.membership left nested (op == .ne)))
    (existence : ∀ row quantifier nested, left = .tuple row → right = .subquery quantifier nested →
      op.isDistinctness = false →
      ¬ (op = .eq ∧ quantifier = .any ∨ op = .ne ∧ quantifier = .every) →
      motive (.existence row nested (quantifier.existenceOp op).1 (quantifier.existenceOp op).2))
    (rows : ∀ row others, left = .tuple row → right = .tuple others → op.isDistinctness = false →
      motive (.rows row others op))
    (native : motive (.native left op right)) : motive (of left op right) := by
  unfold of
  split
  · exact intersection
  · next comparable =>
    have comparable : op.isDistinctness = false := eq_false_of_ne_true comparable
    cases right with
    | subquery quantifier nested =>
      simp only
      split
      · exact membership quantifier nested rfl
      · next apart =>
        cases left with
        | tuple row => exact existence row quantifier nested rfl rfl comparable apart
        | star | literal | column | parameter | arithmetic | function | window | subquery
        | summarization => exact native
    | tuple others =>
      cases left with
      | tuple row => exact rows row others rfl rfl comparable
      | star | literal | column | parameter | arithmetic | function | window | subquery
      | summarization => exact native
    | star | literal | column | parameter | arithmetic | function | window | summarization =>
      exact native

def fragment (target : Target) : ComparisonForm → Fragment
  | .membership left nested negated =>
    Render.expr target left ++ .text (if negated then " not in " else " in ")
      ++ (Render.query target nested).subquery
  | .intersection left right negated =>
    RowValue.intersection (Render.operand target left) negated (Render.operand target right)
  | .rows left right op =>
    Render.rowComparison target (Render.exprs target left) (Render.exprs target right) op
  | .existence row nested op negated =>
    RowValue.existence (Render.rowComparison target) (Render.exprs target row)
      (Render.query target nested).parts op negated
  | .native left op right =>
    RowValue.compare (Render.expr target left) op (Render.expr target right)

theorem comparison_eq (target : Target) (left : Expr) (op : ComparisonOp) (right : Expr) :
    comparison (Render.rowComparison target) (Render.operand target left) op
      (Render.operand target right) = (of left op right).fragment target := by
  cases right with
  | subquery quantifier nested =>
    cases op with
    | distinctFrom | notDistinctFrom => cases quantifier <;> rfl
    | eq | ne | lt | lte | gt | gte => cases quantifier <;> cases left <;> rfl
  | tuple others =>
    cases op with
    | distinctFrom | notDistinctFrom => rfl
    | eq | ne | lt | lte | gt | gte => cases left <;> rfl
  | star | literal | column | parameter | arithmetic | function | window | summarization =>
    cases op with
    | distinctFrom | notDistinctFrom => rfl
    | eq | ne | lt | lte | gt | gte => cases left <;> rfl

/-- The form of a comparison that leaves out memberships. -/
def emulated (left : Expr) (op : ComparisonOp) (right : Expr) : ComparisonForm :=
  if op.isDistinctness then .intersection left right (op == .distinctFrom)
  else match left, right with
    | .tuple row, .subquery quantifier nested =>
      .existence row nested (quantifier.existenceOp op).1 (quantifier.existenceOp op).2
    | .tuple row, .tuple others => .rows row others op
    | left, right => .native left op right

theorem emulate_eq (target : Target) (left : Expr) (op : ComparisonOp) (right : Expr) :
    RowValue.emulate (Render.rowComparison target) (Render.operand target left) op
      (Render.operand target right) = (emulated left op right).fragment target := by
  cases op with
  | distinctFrom | notDistinctFrom => rfl
  | eq | ne | lt | lte | gt | gte =>
    cases left with
    | tuple row =>
      cases right with
      | subquery quantifier nested => cases quantifier <;> rfl
      | star | literal | column | parameter | arithmetic | function | window | tuple | summarization => rfl
    | star | literal | column | parameter | arithmetic | function | window | subquery | summarization =>
      rfl

/-- The nodes that a form is made of. -/
def parts : ComparisonForm → List Node
  | .membership left nested _ => [.expr left, .query nested]
  | .intersection left right _ | .native left _ right => [.expr left, .expr right]
  | .rows left right _ => left.map .expr ++ right.map .expr
  | .existence row nested _ _ => .query nested :: row.map .expr

section

variable {left : Expr} {op : ComparisonOp} {right : Expr} {node : Node}

theorem below_of_parts_emulated (mem : node ∈ (emulated left op right).parts) :
    (Node.predicate (.comparison left op right)).Below node := by
  have onLeft : (Node.predicate (.comparison left op right)).Below (.expr left) :=
    Node.below_of_mem List.mem_cons_self
  have onRight : (Node.predicate (.comparison left op right)).Below (.expr right) :=
    Node.below_of_mem (List.mem_cons_of_mem _ List.mem_cons_self)
  unfold emulated at mem
  split at mem
  · exact Node.below_of_mem mem
  · split at mem
    · rcases List.mem_cons.mp mem with rfl | mem
      · exact onRight.tail List.mem_cons_self
      · exact onLeft.tail mem
    · rcases List.mem_append.mp mem with mem | mem
      · exact onLeft.tail mem
      · exact onRight.tail mem
    · exact Node.below_of_mem mem

/-- A comparison is a membership or takes the form that leaves memberships out. -/
theorem of_eq (left : Expr) (op : ComparisonOp) (right : Expr) :
    of left op right = emulated left op right ∨
      ∃ quantifier nested, right = .subquery quantifier nested ∧
        of left op right = .membership left nested (op == .ne) := by
  unfold of emulated
  split
  · exact .inl rfl
  · cases right with
    | subquery quantifier nested =>
      simp only
      split
      · exact .inr ⟨quantifier, nested, rfl, rfl⟩
      · exact .inl (by cases left <;> rfl)
    | tuple others => exact .inl (by cases left <;> rfl)
    | star | literal | column | parameter | arithmetic | function | window | summarization =>
      exact .inl (by cases left <;> rfl)

theorem below_of_parts (mem : node ∈ (of left op right).parts) :
    (Node.predicate (.comparison left op right)).Below node := by
  rcases of_eq left op right with same | ⟨quantifier, nested, rfl, same⟩
  · exact below_of_parts_emulated (same ▸ mem)
  · rw [same] at mem
    rcases List.mem_cons.mp mem with rfl | mem
    · exact Node.below_of_mem List.mem_cons_self
    · exact .tail (Node.below_of_mem (List.mem_cons_of_mem _ List.mem_cons_self)) mem

end

def revise (r : Revision) : ComparisonForm → ComparisonForm
  | .membership left nested negated =>
    .membership (left.revise (r.below 0)) (nested.revise (r.below 1)) negated
  | .intersection left right negated =>
    .intersection (left.revise (r.below 0)) (right.revise (r.below 1)) negated
  | .rows left right op => .rows (reviseExprs (r.below 0) left) (reviseExprs (r.below 1) right) op
  | .existence row nested op negated =>
    .existence (reviseExprs (r.below 0) row) (nested.revise (r.below 1)) op negated
  | .native left op right => .native (left.revise (r.below 0)) op (right.revise (r.below 1))

theorem of_revise (r : Revision) (left : Expr) (op : ComparisonOp) (right : Expr) :
    of (left.revise (r.below 0)) op (right.revise (r.below 1)) = (of left op right).revise r := by
  unfold of
  split
  · rfl
  · cases right with
    | subquery quantifier nested =>
      simp only [Expr.revise]
      split
      · rfl
      · cases left <;> rfl
    | tuple others => cases left <;> rfl
    | star | literal | column | parameter | arithmetic | function | window | summarization => rfl

end ComparisonForm

end Spanner

end PortableSql
