import PortableSql.Proofs.RowSubquery

/-! The tests that a comparison of row values is expanded into.

The expansion goes along the elements and compares them one by one (`RowValue.Tests.expand`). It does not look
into an element: one that is a row value itself, or a star in the selections of a query, stands beside an
operator as it is. So all tests are of single values exactly if no element is such a one
(`Session.comparison_elementTests`).
-/

set_option autoImplicit false

namespace PortableSql

/-- Whether an expression is a single value, neither a row nor all columns. -/
def Expr.isScalar : Expr → Bool
  | .tuple _ | .star => false
  | _ => true

/-- Whether all tests in a condition are of pairs of elements, and every pair is tested. -/
structure ElementTests (pairs : List (Expr × Expr)) (tokens : List (Token Trial)) : Prop where
  paired (trial : Trial) : .test trial ∈ tokens → ∃ l op r, trial = .element l op r ∧ (l, r) ∈ pairs
  tested (l r : Expr) : (l, r) ∈ pairs → ∃ op, .test (.element l op r) ∈ tokens

/-- Whether a condition tests single values only. -/
def OfScalars (tokens : List (Token Trial)) : Prop :=
  ∀ l op r, .test (.element l op r) ∈ tokens → l.isScalar = true ∧ r.isScalar = true

namespace ElementTests

variable {pairs pairs' : List (Expr × Expr)} {tokens tokens' : List (Token Trial)}

theorem single (l : Expr) (op : ComparisonOp) (r : Expr) :
    ElementTests [(l, r)] [.test (.element l op r)] := by
  constructor
  · intro trial mem
    cases List.mem_singleton.mp mem
    exact ⟨l, op, r, rfl, List.mem_cons_self⟩
  · intro l' r' mem
    cases List.mem_singleton.mp mem
    exact ⟨op, List.mem_cons_self⟩

theorem append (first : ElementTests pairs tokens) (second : ElementTests pairs' tokens') :
    ElementTests (pairs ++ pairs') (tokens ++ tokens') := by
  constructor
  · intro trial mem
    rcases List.mem_append.mp mem with mem | mem
    · obtain ⟨l, op, r, same, mem⟩ := first.paired trial mem
      exact ⟨l, op, r, same, List.mem_append_left _ mem⟩
    · obtain ⟨l, op, r, same, mem⟩ := second.paired trial mem
      exact ⟨l, op, r, same, List.mem_append_right _ mem⟩
  · intro l r mem
    rcases List.mem_append.mp mem with mem | mem
    · obtain ⟨op, mem⟩ := first.tested l r mem
      exact ⟨op, List.mem_append_left _ mem⟩
    · obtain ⟨op, mem⟩ := second.tested l r mem
      exact ⟨op, List.mem_append_right _ mem⟩

theorem token (token : Token Trial) (sign : ∀ trial, token ≠ .test trial) : ElementTests [] [token] := by
  constructor
  · intro trial mem
    exact absurd (List.mem_singleton.mp mem).symm (sign trial)
  · nofun

theorem congr (tests : ElementTests pairs tokens) (same : ∀ pair, pair ∈ pairs ↔ pair ∈ pairs') :
    ElementTests pairs' tokens := by
  constructor
  · intro trial mem
    obtain ⟨l, op, r, eq, mem⟩ := tests.paired trial mem
    exact ⟨l, op, r, eq, (same _).mp mem⟩
  · exact fun l r mem => tests.tested l r ((same _).mpr mem)

/-- All tests are of single values exactly if all elements are such. -/
theorem ofScalars_iff {left right : List Expr} (same : left.length = right.length)
    (tests : ElementTests (left.zip right) tokens) :
    OfScalars tokens ↔ (∀ item ∈ left, item.isScalar = true) ∧ ∀ item ∈ right, item.isScalar = true := by
  constructor
  · intro scalar
    have pair (l r : Expr) (mem : (l, r) ∈ left.zip right) : l.isScalar = true ∧ r.isScalar = true := by
      obtain ⟨op, mem⟩ := tests.tested l r mem
      exact scalar l op r mem
    constructor
    · intro item mem
      rw [← List.map_fst_zip (Nat.le_of_eq same)] at mem
      obtain ⟨⟨l, r⟩, zipped, rfl⟩ := List.mem_map.mp mem
      exact (pair l r zipped).1
    · intro item mem
      rw [← List.map_snd_zip (Nat.le_of_eq same.symm)] at mem
      obtain ⟨⟨l, r⟩, zipped, rfl⟩ := List.mem_map.mp mem
      exact (pair l r zipped).2
  · rintro ⟨left, right⟩ l op r mem
    obtain ⟨l, op, r, same, mem⟩ := tests.paired _ mem
    cases same
    obtain ⟨first, second⟩ := List.of_mem_zip mem
    exact ⟨left l first, right r second⟩

end ElementTests

namespace RowValue

/-- Whether a fragment is a condition whose tests are of pairs of elements. -/
def Tests (target : Target) (pairs : List (Expr × Expr)) (fragment : Fragment) : Prop :=
  ∃ tokens, fragment = .ofTokens (Trial.fragment target) tokens ∧ ElementTests pairs tokens

namespace Tests

variable {target : Target} {pairs pairs' : List (Expr × Expr)} {first second fragment : Fragment}

theorem single (l : Expr) (op : ComparisonOp) (r : Expr) :
    Tests target [(l, r)] (compare (Render.expr target l) op (Render.expr target r)) :=
  ⟨_, (Fragment.append_nil _).symm, .single l op r⟩

theorem join (token : Token Trial) (sign : ∀ trial, token ≠ .test trial) (head : Tests target pairs first)
    (rest : Tests target pairs' second) :
    Tests target (pairs ++ pairs') (first ++ token.fragment (Trial.fragment target) ++ second) := by
  obtain ⟨tokens, rfl, tests⟩ := head
  obtain ⟨tokens', rfl, tests'⟩ := rest
  refine ⟨tokens ++ ([token] ++ tokens'), ?_, tests.append ((ElementTests.token token sign).append tests')⟩
  simp [Fragment.ofTokens_append, Fragment.ofTokens, Fragment.append_assoc]

theorem and (head : Tests target pairs first) (rest : Tests target pairs' second) :
    Tests target (pairs ++ pairs') (first ++ .text " and " ++ second) :=
  join .and nofun head rest

theorem or (head : Tests target pairs first) (rest : Tests target pairs' second) :
    Tests target (pairs ++ pairs') (first ++ .text " or " ++ second) :=
  join .or nofun head rest

theorem parens (inner : Tests target pairs fragment) : Tests target pairs (.parens fragment) := by
  obtain ⟨tokens, rfl, tests⟩ := inner
  have opened := (ElementTests.token .opening nofun).append tests
  have closed := opened.append (ElementTests.token .closing nofun)
  refine ⟨[.opening] ++ tokens ++ [.closing], ?_, closed.congr fun pair => by simp⟩
  simp [Fragment.parens, Fragment.ofTokens_append, Fragment.ofTokens, Token.fragment, Fragment.append_assoc,
    Fragment.append_nil]

theorem congr (tests : Tests target pairs fragment) (same : ∀ pair, pair ∈ pairs ↔ pair ∈ pairs') :
    Tests target pairs' fragment := by
  obtain ⟨tokens, eq, tests⟩ := tests
  exact ⟨tokens, eq, tests.congr same⟩

variable {left right : List Expr}

theorem pairwise (op : ComparisonOp) (token : Token Trial) (sign : ∀ trial, token ≠ .test trial)
    (separator : String) (written : token.fragment (Trial.fragment target) = .text separator)
    (same : left.length = right.length) (inhabited : left ≠ []) :
    Tests target (left.zip right)
      (.separated separator
        (RowValue.pairwise op (left.map (Render.expr target)) (right.map (Render.expr target)))) := by
  induction left, right, same, inhabited using Row.induction with
  | single l r => exact single l op r
  | more l r l' r' left right same ih =>
    have joined := join token sign (single l op r) ih
    rwa [written] at joined

theorem lexicographic (op : ComparisonOp) (ranges : Bool) (same : left.length = right.length)
    (inhabited : left ≠ []) :
    Tests target (left.zip right)
      (RowValue.lexicographic op ranges (left.map (Render.expr target)) (right.map (Render.expr target))) := by
  induction left, right, same, inhabited using Row.induction with
  | single l r => exact single l op r
  | more l r l' r' left right same ih =>
    cases ranges with
    | true =>
      have strict := ((single l op.strict r).or ih).parens
      exact ((single l op.inclusive r).and strict).congr fun pair => by simp
    | false =>
      -- the last level is a test, which needs no parentheses
      have rest : Tests target ((l' :: left).zip (r' :: right))
          (if 1 < ((l' :: left).map (Render.expr target)).length then
            .parens (RowValue.lexicographic op false ((l' :: left).map (Render.expr target))
              ((r' :: right).map (Render.expr target)))
          else RowValue.lexicographic op false ((l' :: left).map (Render.expr target))
              ((r' :: right).map (Render.expr target))) := by
        split
        · exact ih.parens
        · exact ih
      have level := Tests.and (.or (.single l op.strict r) (.single l .eq r)) rest
      rw [Fragment.append_assoc, ← Fragment.append_assoc] at level
      refine level.congr fun pair => by simp

/-- An expansion that does not fail is of rows of one length, and tests their elements one by one. -/
theorem expand {ranges : Bool} {op : ComparisonOp}
    (whole : (RowValue.expand ranges (left.map (Render.expr target)) (right.map (Render.expr target)) op).failure
      = none) :
    left.length = right.length ∧ Tests target (left.zip right)
      (RowValue.expand ranges (left.map (Render.expr target)) (right.map (Render.expr target)) op) := by
  unfold RowValue.expand at whole ⊢
  split at whole
  · contradiction
  · next lengths =>
    have same : left.length = right.length := by simpa using lengths
    refine ⟨same, ?_⟩
    rw [if_neg lengths]
    match left, right with
    | [], [] => contradiction
    | [l], [r] => exact single l op r
    | l :: l' :: left, r :: r' :: right =>
      cases op with
      | eq => exact (pairwise .eq .and nofun " and " rfl same (List.cons_ne_nil _ _)).parens
      | ne => exact (pairwise .ne .or nofun " or " rfl same (List.cons_ne_nil _ _)).parens
      | lt | lte | gt | gte => exact (lexicographic _ ranges same (List.cons_ne_nil _ _)).parens
      | distinctFrom | notDistinctFrom => contradiction

end Tests

end RowValue

/-- The text of an existence test over a query, with a condition added to those of the query. -/
def Query.existenceText (session : Session) (query : Query) (negated : Bool) (added : String) : String :=
  let written (condition : Option Predicate) : Option String :=
    (Predicate.effective? condition).map fun p => session.textOf (.predicate p)
  let own (condition : Option Predicate) : String :=
    (written condition).elim "" fun text => "(" ++ text ++ ") and "
  (if negated then "not " else "") ++ "exists (select 1"
    ++ (if query.sources.isEmpty then "" else " from " ++ session.textOf (.sources query.sources))
    ++ (if !query.groupBy.isEmpty || query.having.isSome then
        (written query.restriction).elim "" (fun text => " where " ++ text)
          ++ (if query.groupBy.isEmpty then "" else " group by "
            ++ ",".intercalate (query.groupBy.map fun item => session.textOf (.partitionItem item)))
          ++ " having " ++ own query.having
      else " where " ++ own query.restriction)
    ++ added ++ ")"

namespace Session

variable (session : Session)

theorem sql_own (condition : Option Predicate)
    (whole : (Fragment.ifSome (Render.condition session.target condition) fun fragment =>
      .text "(" ++ fragment ++ .text ") and ").failure = none) :
    (Fragment.ifSome (Render.condition session.target condition) fun fragment =>
        .text "(" ++ fragment ++ .text ") and ").sql session.target.config =
      ((Predicate.effective? condition).map fun p => session.textOf (.predicate p)).elim ""
        fun text => "(" ++ text ++ ") and " := by
  rw [Render.condition_eq_map] at whole ⊢
  cases effective : Predicate.effective? condition with
  | none => rfl
  | some p =>
    have inner : (Render.predicate session.target p).failure = none := by
      simpa [effective, Fragment.ifSome, Fragment.failure_append] using whole
    simp [Fragment.ifSome, Fragment.sql_append, Fragment.failure_append, inner, textOf_eq, Piece.fragment]

theorem sql_restriction (clause : Clause) (keyword : String) (condition : Option Predicate) :
    (RowValue.restriction clause keyword (Render.condition session.target condition)).sql session.target.config =
      ((Predicate.effective? condition).map fun p => session.textOf (.predicate p)).elim ""
        fun text => keyword ++ text := by
  rw [RowValue.restriction, Render.condition_eq_map]
  cases Predicate.effective? condition with
  | none => rfl
  | some p => simp [Fragment.ifSome, Fragment.sql_append, textOf_eq, Piece.fragment]

theorem sql_sources (sources : List TableGroup) :
    (Fragment.onlyIf (!(Render.groups session.target sources).isEmpty)
        (.text " from " ++ .separated "," (Render.groups session.target sources))).sql session.target.config =
      if sources.isEmpty then "" else " from " ++ session.textOf (.sources sources) := by
  have empty : (Render.groups session.target sources).isEmpty = sources.isEmpty := by
    rw [Render.groups_eq_map, List.isEmpty_map]
  rw [empty]
  cases sources.isEmpty with
  | true => rfl
  | false => simp [Fragment.onlyIf, Fragment.sql_append, textOf_eq, Piece.fragment]

theorem sql_grouping {items : List Expr}
    (whole : (RowValue.grouping (Render.partitionItems session.target items)).failure = none) :
    (RowValue.grouping (Render.partitionItems session.target items)).sql session.target.config =
      if items.isEmpty then "" else " group by "
        ++ ",".intercalate (items.map fun item => session.textOf (.partitionItem item)) := by
  have empty : (Render.partitionItems session.target items).isEmpty = items.isEmpty := by
    rw [Render.partitionItems_eq_map, List.isEmpty_map]
  have texts : (Render.partitionItems session.target items).map (Fragment.sql session.target.config) =
      items.map fun item => session.textOf (.partitionItem item) := by
    rw [Render.partitionItems_eq_map, List.map_map]
    exact List.map_congr_left fun item _ => (session.textOf_eq (.partitionItem item)).symm
  rw [RowValue.grouping, empty] at whole ⊢
  cases given : items.isEmpty with
  | true => rfl
  | false =>
    rw [given] at whole
    have each : ∀ fragment ∈ Render.partitionItems session.target items, fragment.failure = none := by
      have separated : (Fragment.separated "," (Render.partitionItems session.target items)).failure = none := by
        simpa [Fragment.onlyIf, Fragment.failure_append] using whole
      rw [Fragment.failure_separated] at separated
      exact List.findSome?_eq_none_iff.mp separated
    have listed : Fragment.Adds session.target.config (.separated "," _) _ := .separated each
    have list := listed.sql
    rw [texts] at list
    simp [Fragment.onlyIf, Fragment.sql_append, list]

/-- An existence test that does not fail writes the query's own conditions and, behind them, the comparison of
the selections with the row. -/
theorem sql_existence {query : Query} {row : List Fragment} {op : ComparisonOp} {negated : Bool}
    (whole : (RowValue.existence (Render.rowComparison session.target) row
      (Render.query session.target query).parts op negated).failure = none) :
    let compared := Render.rowComparison session.target
      (query.selections.map fun selection => Render.expr session.target selection.expr) row op.invert
    compared.failure = none ∧
      (RowValue.existence (Render.rowComparison session.target) row
        (Render.query session.target query).parts op negated).sql session.target.config =
        query.existenceText session negated (compared.sql session.target.config) := by
  intro compared
  simp only [RowValue.existence, Render.query_parts, Render.selectionList_fst] at whole ⊢
  split at whole
  · contradiction
  · next unlimited =>
    rw [if_neg unlimited]
    have empty : (Render.partitionItems session.target query.groupBy).isEmpty = query.groupBy.isEmpty := by
      rw [Render.partitionItems_eq_map, List.isEmpty_map]
    rw [empty] at whole ⊢
    have negation : Fragment.Adds session.target.config (.onlyIf negated (.text "not ")) _ :=
      (Fragment.Adds.text "not ").onlyIf negated
    unfold Query.existenceText
    cases grouped : !query.groupBy.isEmpty || query.having.isSome with
    | true =>
      simp only [grouped, if_true, Fragment.failure_append_eq_none] at whole ⊢
      obtain ⟨⟨⟨⟨⟨-, sources⟩, ⟨clause, grouping⟩, -⟩, own⟩, compares⟩, -⟩ := whole
      refine ⟨compares, ?_⟩
      simp [compared, Fragment.sql_append, Fragment.failure_append, negation.whole, negation.sql, sources, clause,
        grouping, own, compares, session.sql_sources, session.sql_restriction, session.sql_grouping grouping,
        session.sql_own _ own, String.append_assoc]
    | false =>
      simp only [grouped, Bool.false_eq_true, if_false, Fragment.failure_append_eq_none] at whole ⊢
      obtain ⟨⟨⟨⟨⟨-, sources⟩, -⟩, own⟩, compares⟩, -⟩ := whole
      refine ⟨compares, ?_⟩
      simp [compared, Fragment.sql_append, Fragment.failure_append, negation.whole, negation.sql, sources, own,
        compares, session.sql_sources, session.sql_own _ own, String.append_assoc]

/-- A comparison that is written in Spanner is written in the form that it takes. -/
theorem comparison_form (spanner : session.target.dialect = .spanner) (left : Expr) (op : ComparisonOp)
    (right : Expr) :
    (session.write (.comparison left op right)).2 =
        ((Spanner.ComparisonForm.of left op right).fragment session.target).failure ∧
      session.textOf (.comparison left op right) =
        ((Spanner.ComparisonForm.of left op right).fragment session.target).sql session.target.config := by
  obtain ⟨⟨dialect, config⟩, clauses, marks⟩ := session
  cases spanner
  rw [write_failure, textOf_eq, ← Spanner.ComparisonForm.comparison_eq]
  exact ⟨Fragment.failure_offer _ _ _, Fragment.sql_offer_some _ _ _⟩

/-- A comparison of rows that does not fail is a condition over tests of their elements. -/
theorem rowComparison_tests {left right : List Expr} {op : ComparisonOp}
    (whole : (Render.rowComparison session.target (left.map (Render.expr session.target))
      (right.map (Render.expr session.target)) op).failure = none) :
    left.length = right.length ∧ ∃ tokens,
      (Render.rowComparison session.target (left.map (Render.expr session.target))
        (right.map (Render.expr session.target)) op).sql session.target.config = session.words tokens ∧
      ElementTests (left.zip right) tokens := by
  obtain ⟨ranges, offered⟩ := Render.rowComparison_eq session.target
  obtain ⟨outcome, offer⟩ := offered (left.map (Render.expr session.target))
    (right.map (Render.expr session.target)) op
  rw [offer, Fragment.failure_append_eq_none] at whole
  obtain ⟨same, tokens, expanded, tests⟩ := RowValue.Tests.expand whole.2
  rw [expanded] at whole
  refine ⟨same, tokens, ?_, tests⟩
  rw [offer, expanded, Fragment.sql_append whole.1, Fragment.sql_offer, String.empty_append]
  exact (session.adds_words whole.2).sql

/-- What a comparison of a row value is written as in Spanner: a condition over tests of elements, alone or in an
existence test, or a membership, which has no tests. The tests are of single values exactly if no element is a
row value or a star. -/
theorem comparison_elementTests (spanner : session.target.dialect = .spanner) (row : List Expr)
    {op : ComparisonOp} (comparable : op.isDistinctness = false) :
    (∀ others, (session.write (.comparison (.tuple row) op (.tuple others))).2 = none →
      row.length = others.length ∧ ∃ tokens,
        session.textOf (.comparison (.tuple row) op (.tuple others)) = session.words tokens ∧
          ElementTests (row.zip others) tokens ∧
          (OfScalars tokens ↔ (∀ item ∈ row, item.isScalar = true) ∧ ∀ item ∈ others, item.isScalar = true)) ∧
    ∀ quantifier nested, (session.write (.comparison (.tuple row) op (.subquery quantifier nested))).2 = none →
      if op = .eq ∧ quantifier = .any ∨ op = .ne ∧ quantifier = .every then
        session.textOf (.comparison (.tuple row) op (.subquery quantifier nested)) =
          session.textOf (.expr (.tuple row)) ++ (if op = .ne then " not in " else " in ")
            ++ session.textOf (.subquery nested)
      else
        let columns := nested.selections.map (·.expr)
        columns.length = row.length ∧ ∃ tokens,
          session.textOf (.comparison (.tuple row) op (.subquery quantifier nested)) =
              nested.existenceText session (quantifier.existenceOp op).2 (session.words tokens) ∧
            ElementTests (columns.zip row) tokens ∧
            (OfScalars tokens ↔
              (∀ item ∈ columns, item.isScalar = true) ∧ ∀ item ∈ row, item.isScalar = true) := by
  constructor
  · intro others whole
    obtain ⟨failure, text⟩ := session.comparison_form spanner (.tuple row) op (.tuple others)
    have form : Spanner.ComparisonForm.of (.tuple row) op (.tuple others) = .rows row others op := by
      rw [Spanner.ComparisonForm.of, comparable]
      rfl
    rw [form] at failure text
    rw [failure] at whole
    simp only [Spanner.ComparisonForm.fragment, Render.exprs_eq_map] at whole text
    obtain ⟨same, tokens, words, tests⟩ := session.rowComparison_tests whole
    exact ⟨same, tokens, text.trans words, tests, tests.ofScalars_iff same⟩
  · intro quantifier nested whole
    obtain ⟨failure, text⟩ := session.comparison_form spanner (.tuple row) op (.subquery quantifier nested)
    rw [failure] at whole
    split
    · next member =>
      have form : Spanner.ComparisonForm.of (.tuple row) op (.subquery quantifier nested) =
          .membership (.tuple row) nested (op == .ne) := by
        simp [Spanner.ComparisonForm.of, comparable, member]
      rw [form] at whole text
      simp only [Spanner.ComparisonForm.fragment, Fragment.failure_append_eq_none] at whole
      obtain ⟨⟨left, sign⟩, -⟩ := whole
      rw [text, textOf_eq, textOf_eq]
      simp [Spanner.ComparisonForm.fragment, Fragment.sql_append, Fragment.failure_append, left, Piece.fragment]
    · next apart =>
      have form : Spanner.ComparisonForm.of (.tuple row) op (.subquery quantifier nested) =
          .existence row nested (quantifier.existenceOp op).1 (quantifier.existenceOp op).2 := by
        simp [Spanner.ComparisonForm.of, comparable, apart]
      intro columns
      rw [form] at whole text
      obtain ⟨compared, written⟩ := session.sql_existence whole
      rw [Spanner.ComparisonForm.fragment, written] at text
      have selected : (nested.selections.map fun selection => Render.expr session.target selection.expr) =
          columns.map (Render.expr session.target) := by
        rw [List.map_map]
        rfl
      rw [selected, Render.exprs_eq_map] at compared text
      obtain ⟨same, tokens, words, tests⟩ := session.rowComparison_tests compared
      exact ⟨same, tokens, by rw [text, words], tests, tests.ofScalars_iff same⟩

/-- `(a, b) < (c, d)` and `(a, b) < all (select x, y from s)` test columns only. -/
theorem comparison_elementTests_columns :
    let session : Session := ⟨⟨.spanner, .spanner⟩, [], []⟩
    let column (name : String) : Expr := .column { name }
    let row := [column "a", column "b"]
    let nested : Query := { Query.empty with
      selections := [⟨column "x", none⟩, ⟨column "y", none⟩]
      sources := [⟨.named { table := "s" }, []⟩] }
    (∃ tokens, session.textOf (.comparison (.tuple row) .lt (.tuple [column "c", column "d"])) =
        session.words tokens ∧ OfScalars tokens) ∧
      ∃ tokens, session.textOf (.comparison (.tuple row) .lt (.subquery .every nested)) =
        nested.existenceText session true (session.words tokens) ∧ OfScalars tokens := by
  intro session column row nested
  obtain ⟨rows, queries⟩ := @comparison_elementTests session rfl row .lt rfl
  constructor
  · obtain ⟨-, tokens, text, -, scalar⟩ := rows [column "c", column "d"] rfl
    exact ⟨tokens, text, scalar.mpr (by simp [row, column, Expr.isScalar])⟩
  · obtain ⟨-, tokens, text, -, scalar⟩ := queries .every nested rfl
    exact ⟨tokens, text, scalar.mpr (by simp [row, nested, column, Expr.isScalar])⟩

/-- `((a, b), c) = ((1, 2), 3)` is written, with a test of row values. -/
theorem comparison_nested :
    let session : Session := ⟨⟨.spanner, .spanner⟩, [], []⟩
    let column (name : String) : Expr := .column { name }
    let row := [.tuple [column "a", column "b"], column "c"]
    let others := [.tuple [.literal (.int 1), .literal (.int 2)], .literal (.int 3)]
    (session.write (.comparison (.tuple row) .eq (.tuple others))).2 = none ∧
      session.textOf (.comparison (.tuple row) .eq (.tuple others)) = "((a,b)=(1,2) and c=3)" ∧
      ¬ ∃ tokens, ElementTests (row.zip others) tokens ∧ OfScalars tokens := by
  intro session column row others
  refine ⟨rfl, by decide +kernel, ?_⟩
  rintro ⟨tokens, tests, scalar⟩
  have same : row.length = others.length := rfl
  have elements := ((tests.ofScalars_iff same).mp scalar).1 _ List.mem_cons_self
  contradiction

end Session

end PortableSql
