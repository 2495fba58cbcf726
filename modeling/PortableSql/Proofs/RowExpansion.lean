import PortableSql.Proofs.ConditionText

/-! What the expansion of a comparison of row values amounts to.

Whatever the elements are and however a test of two of them is written, the expansion is a condition
over such tests, and the condition amounts to the comparison of the rows. The induction goes along the
elements; on the ordering in its range form it rests on the distributive law. Where the elements are
names and numbers, the condition is read from the characters of the expansion.
-/

set_option autoImplicit false

namespace PortableSql

namespace RowValue

variable {left right : List Fragment}

end RowValue

variable {ι α E V : Type} [LinearOrder V]

/-- Tests that compare two elements: how they are written, and what they amount to in an environment
that gives the elements on either side their values. -/
structure Compares (unit : α → Fragment) (value : E → α → Truth) (element : ι → Fragment)
    (test : ι → ComparisonOp → ι → α) (left right : E → ι → Option V) : Prop where
  fragment (l : ι) (op : ComparisonOp) (r : ι) :
    unit (test l op r) = RowValue.compare (element l) op (element r)
  truth (e : E) (l : ι) (op : ComparisonOp) (r : ι) :
    value e (test l op r) = op.truth (left e l) (right e r)

namespace Compares

variable {unit : α → Fragment} {value : E → α → Truth} {element : ι → Fragment}
  {test : ι → ComparisonOp → ι → α} {left right : E → ι → Option V}

theorem single (compares : Compares unit value element test left right) (l : ι) (op : ComparisonOp)
    (r : ι) :
    Means unit value .factor (RowValue.compare (element l) op (element r))
      fun e => op.truth (left e l) (right e r) := by
  rw [← compares.fragment]
  exact (Means.test (test l op r)).congr fun e => compares.truth e l op r

theorem equality (compares : Compares unit value element test left right) {ls rs : List ι}
    (same : ls.length = rs.length) (inhabited : ls ≠ []) :
    Means unit value .conjunction
      (.separated " and " (RowValue.pairwise .eq (ls.map element) (rs.map element)))
      fun e => Row.equality (ls.map (left e)) (rs.map (right e)) := by
  induction ls, rs, same, inhabited using Row.induction with
  | single l r => exact (compares.single l .eq r).conjunction.congr fun e => (Truth.and_yes _).symm
  | more l r l' r' ls rs same ih => exact (compares.single l .eq r).and ih

theorem inequality (compares : Compares unit value element test left right) {ls rs : List ι}
    (same : ls.length = rs.length) (inhabited : ls ≠ []) :
    Means unit value .disjunction
      (.separated " or " (RowValue.pairwise .ne (ls.map element) (rs.map element)))
      fun e => (Row.equality (ls.map (left e)) (rs.map (right e))).not := by
  induction ls, rs, same, inhabited using Row.induction with
  | single l r =>
    refine (compares.single l .ne r).conjunction.disjunction.congr fun e => ?_
    simp [Row.equality, ComparisonOp.truth_ne]
  | more l r l' r' ls rs same ih =>
    refine ((compares.single l .ne r).conjunction.or ih).congr fun e => ?_
    rw [ComparisonOp.truth_ne, ← Truth.not_and]
    rfl

theorem ordering (compares : Compares unit value element test left right) {op : ComparisonOp}
    (ordering : op.isOrdering = true) (ranges : Bool) {ls rs : List ι}
    (same : ls.length = rs.length) (inhabited : ls ≠ []) :
    Means unit value .disjunction
      (RowValue.lexicographic op ranges (ls.map element) (rs.map element))
      fun e => Row.ordering op (ls.map (left e)) (rs.map (right e)) := by
  induction ls, rs, same, inhabited using Row.induction with
  | single l r => exact (compares.single l op r).conjunction.disjunction
  | more l r l' r' ls rs same ih =>
    have strict := compares.single l op.strict r
    cases ranges with
    | true =>
      have inner := (strict.conjunction.or ih).parens
      refine ((compares.single l op.inclusive r).and inner.conjunction).disjunction.congr fun e => ?_
      -- the range is the strict ordering or equality, so the strict ordering can be taken out of both
      rw [ComparisonOp.truth_inclusive ordering, ← Truth.or_and_distrib]
      rfl
    | false =>
      have equal := compares.single l .eq r
      have rest : Means unit value .factor
          (if 1 < ((l' :: ls).map element).length then
            .parens (RowValue.lexicographic op false ((l' :: ls).map element) ((r' :: rs).map element))
          else RowValue.lexicographic op false ((l' :: ls).map element) ((r' :: rs).map element))
          fun e => Row.ordering op ((l' :: ls).map (left e)) ((r' :: rs).map (right e)) := by
        split
        · exact ih.parens
        -- the last level is a test, which needs no parentheses
        · next short =>
          have last : ls = [] := by simpa using short
          subst last
          exact compares.single l' op r'
      have level := strict.conjunction.or (equal.and rest.conjunction).disjunction
      simp only [← Fragment.append_assoc] at level
      exact level

/-- The expansion spells the comparison of the rows, and can stand as an operand anywhere. -/
theorem expand (compares : Compares unit value element test left right) {op : ComparisonOp}
    (comparable : op.isDistinctness = false) (ranges : Bool) {ls rs : List ι}
    (same : ls.length = rs.length) (inhabited : ls ≠ []) :
    Means unit value .factor (RowValue.expand ranges (ls.map element) (rs.map element) op)
      fun e => Row.comparison op (ls.map (left e)) (rs.map (right e)) := by
  match ls, rs with
  | [l], [r] =>
    refine (compares.single l op r).congr fun e => ?_
    cases op with
    | eq => exact (Truth.and_yes _).symm
    | ne => simp [Row.comparison, Row.equality, ComparisonOp.truth_ne]
    | lt | lte | gt | gte => rfl
    | distinctFrom | notDistinctFrom => contradiction
  | l :: l' :: ls, r :: r' :: rs =>
    have lengths : ¬((l :: l' :: ls).map element).length ≠ ((r :: r' :: rs).map element).length := by
      simpa using same
    simp only [RowValue.expand, if_neg lengths]
    cases op with
    | eq => exact (compares.equality same inhabited).disjunction.parens
    | ne => exact (compares.inequality same inhabited).parens
    | lt | lte | gt | gte => exact (compares.ordering rfl ranges same inhabited).parens
    | distinctFrom | notDistinctFrom => contradiction

end Compares

/-- An element of a row: a column without a qualifier, or an integer. -/
inductive Scalar where
  | column (name : PlainName) (sqlType : SqlType)
  | integer (value : Int64)

namespace Scalar

def expr : Scalar → Expr
  | .column name sqlType => .column { name := name.text, sqlType }
  | .integer value => .literal (.int value)

def term : Scalar → Term
  | .column name _ => .column name
  | .integer value => .number value.toInt

def value (columns : String → Option Int) : Scalar → Option Int
  | .column name _ => columns name.text
  | .integer value => some value.toInt

theorem rendered (target : Target) (scalars : List Scalar) :
    Render.exprs target (scalars.map expr) = scalars.map fun scalar => .text scalar.term.text := by
  rw [Render.exprs_eq_map, List.map_map]
  refine List.map_congr_left fun scalar _ => ?_
  cases scalar <;> rfl

theorem compares :
    Compares Test.fragment Test.truth (fun scalar => .text scalar.term.text)
      (fun l op r => .comparison l.term op r.term) value value where
  fragment _ _ _ := rfl
  truth columns l op r := by cases l <;> cases r <;> rfl

end Scalar

/-- The expansion in either form, read from its text, amounts to the comparison of the rows whatever
the columns hold; so both forms amount to the same. -/
theorem Session.rowExpansion_reads (session : Session) {op : ComparisonOp}
    (comparable : op.isDistinctness = false) {left right : List Scalar}
    (same : left.length = right.length) (inhabited : left ≠ []) :
    ∃ condition : Bool → Condition Test,
      (∀ ranges,
        let piece := Piece.rowExpansion (left.map Scalar.expr) (right.map Scalar.expr) op ranges
        (session.write piece).2 = none ∧
          Condition.ofText? (session.textOf piece) = some (condition ranges) ∧
          ∀ columns, (condition ranges).truth (Test.truth columns) =
            Row.comparison op (left.map (Scalar.value columns)) (right.map (Scalar.value columns))) ∧
      ∀ columns, (condition true).truth (Test.truth columns) =
        (condition false).truth (Test.truth columns) := by
  have meant (ranges : Bool) := Scalar.compares.expand comparable ranges same inhabited
  have whole (ranges : Bool) := (meant ranges).conjunction.disjunction.ofText?
  choose failure condition read truth using whole
  refine ⟨condition, fun ranges => ⟨?_, ?_, truth ranges⟩, fun columns => ?_⟩
  · rw [write_failure, Piece.fragment, Scalar.rendered, Scalar.rendered]
    exact failure ranges
  · rw [textOf_eq, Piece.fragment, Scalar.rendered, Scalar.rendered]
    exact read ranges session.target.config
  · rw [truth true, truth false]

/-- `(a, 1) <= (b, c)` is open where `a` equals `b` and `c` is null. -/
theorem Session.rowExpansion_reads_open :
    ∃ a b c : PlainName, ∃ condition : Condition Test,
      Condition.ofText? (textOf ⟨⟨.spanner, .spanner⟩, [], []⟩ (.rowExpansion
        ([.column a .integer, .integer 1].map Scalar.expr)
        ([.column b .integer, .column c .integer].map Scalar.expr) .lte true)) = some condition ∧
      condition.truth (Test.truth fun name => if name = "c" then none else some 5) = .unknown := by
  obtain ⟨condition, reads, _⟩ := @rowExpansion_reads ⟨⟨.spanner, .spanner⟩, [], []⟩ .lte rfl
    [.column ⟨"a", by decide⟩ .integer, .integer 1]
    [.column ⟨"b", by decide⟩ .integer, .column ⟨"c", by decide⟩ .integer] rfl (List.cons_ne_nil _ _)
  obtain ⟨_, read, truth⟩ := reads true
  exact ⟨_, _, _, condition true, read, (truth _).trans (by decide)⟩

end PortableSql
