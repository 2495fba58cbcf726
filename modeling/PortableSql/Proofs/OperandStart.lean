import PortableSql.Proofs.CommentScan
import PortableSql.Proofs.ComposedQuery
import PortableSql.Proofs.Traversal

/-! What an operand begins with.

Every expression is written in brackets or begins with a name or a word, except for a star and for a literal.
So the sign of an operator opens no comment with its right operand, unless that is a negative number after a
minus sign or a star after the sign of a division (`Render.expr_takes`).
-/

set_option autoImplicit false

namespace PortableSql

/-- Whether the sign of an operator and the first character of its right operand open no comment. -/
def ArithmeticOp.Takes (op : ArithmeticOp) (operand : String) : Prop :=
  ∀ sign ∈ op.text.toList, ∀ c, operand.toList.head? = some c → opensPair sign c = false

/-- An operator takes what begins with neither of the characters that complete a pair. -/
theorem ArithmeticOp.takes_of_head (op : ArithmeticOp) {operand : String}
    (start : ∀ c, operand.toList.head? = some c → c ≠ '-' ∧ c ≠ '*') : op.Takes operand := by
  intro sign _ c head
  obtain ⟨minus, star⟩ := start c head
  simp [opensPair, minus, star]

/-- A number is taken by every operator, but not by a minus sign if it begins with one itself. -/
theorem ArithmeticOp.takes_numeral (op : ArithmeticOp) {operand : String} (numeral : Numeral operand.toList)
    (unsigned : op = .subtract → operand.toList.head? ≠ some '-') : op.Takes operand := by
  intro sign mem c head
  have star : c ≠ '*' := fun same => numeral.not_mem rfl (List.mem_of_mem_head? (same ▸ head))
  cases op with
  | subtract =>
    have minus : c ≠ '-' := fun same => unsigned rfl (same ▸ head)
    simp [opensPair, minus, star]
  | add | multiply | divide | dividePortable | modulo =>
    have other : sign ≠ '-' := fun same => absurd (same ▸ mem) (by decide)
    simp [opensPair, other, star]

/-- Whether an expression is a number with a minus sign. -/
def Expr.isNegative : Expr → Bool
  | .literal (.int value) => decide (value.toInt < 0)
  | .literal (.float value) => Decimal.isFinite value && Decimal.isNegative value
  | _ => false

namespace Fragment

/-- Whether a fragment begins with a character that completes no pair. -/
def Starts (config : Config) (fragment : Fragment) : Prop :=
  ∃ c, (fragment.sql config).toList.head? = some c ∧ c ≠ '-' ∧ c ≠ '*'

namespace Starts

variable {config : Config} {first second : Fragment}

/-- What follows the first character has no part in it. -/
theorem append (starts : Starts config first) (second : Fragment) : Starts config (first ++ second) := by
  obtain ⟨c, head, other⟩ := starts
  refine ⟨c, ?_, other⟩
  have own : (Mark.sqlText config first.marks).toList.head? = some c := head
  rw [sql, marks_append, Mark.sqlText_append, String.toList_append, List.head?_append, own]
  rfl

theorem text (words : String) {c : Char} (head : words.toList.head? = some c) (minus : c ≠ '-') (star : c ≠ '*') :
    Starts config (.text words) :=
  ⟨c, by rwa [sql_text], minus, star⟩

theorem parens (fragment : Fragment) : Starts config (.parens fragment) :=
  ((text "(" rfl (by decide) (by decide)).append fragment).append _

/-- A name, which may be empty, in front of something. -/
theorem named {name : String} (plain : PlainWords name) (starts : Starts config second) :
    Starts config (.text name ++ second) := by
  cases chars : name.toList with
  | nil =>
    obtain ⟨c, head, other⟩ := starts
    exact ⟨c, by rwa [sql_append (failure_text name), sql_text, String.toList_append, chars], other⟩
  | cons c rest =>
    have head : name.toList.head? = some c := by
      rw [chars]
      rfl
    obtain ⟨minus, star⟩ := plain.start head
    exact (text name head minus star).append second

theorem applied {name : String} (plain : PlainWords name) (args : Fragment) :
    Starts config (.text name ++ .parens args) :=
  named plain (parens args)

theorem offer (construct : Construct) {answer : Option Fragment} {standard : Fragment}
    (starts : Starts config (answer.getD standard)) : Starts config (.offer construct answer standard) := by
  obtain ⟨c, head, other⟩ := starts
  refine ⟨c, ?_, other⟩
  rwa [Fragment.offer, sql_append rfl, sql_offer, String.empty_append]

theorem takes (starts : Starts config first) (op : ArithmeticOp) : op.Takes (first.sql config) := by
  obtain ⟨c, head, other⟩ := starts
  exact op.takes_of_head fun d same => Option.some.inj (head.symm.trans same) ▸ other

end Starts

end Fragment

namespace Render

open Fragment

variable (target : Target)

theorem arithmetic_starts (left : Expr) (op : ArithmeticOp) (right : Expr) (l r : Fragment) :
    Starts target.config (arithmetic target left op right l r) := by
  have standard : Starts target.config (standardArithmetic l op r) := by
    rw [standardArithmetic]
    split
    · exact .applied (by decide) _
    · exact .parens _
  obtain ⟨dialect, config⟩ := target
  cases dialect with
  | generic => exact .offer _ standard
  | spanner =>
    refine .offer _ ?_
    simp only [Target.overrides, Dialect.overrides, Spanner.overrides, Spanner.arithmetic]
    split
    · exact .applied (by decide) _
    · exact standard

theorem column_takes (config : Config) (op : ArithmeticOp) {column : ColumnRef}
    (plain : ∀ name ∈ column.names, PlainWords name) : op.Takes (column.fragment.sql config) := by
  obtain ⟨qualifier, name, sqlType⟩ := column
  cases qualifier with
  | none =>
    have own : PlainWords name := plain name (.head _)
    refine op.takes_of_head fun c head => own.start ?_
    rwa [ColumnRef.fragment, ifSome, nil_append, sql_text] at head
  | some qualifier =>
    have own : PlainWords qualifier := plain qualifier (.head _)
    exact ((Starts.named own (.text "." rfl (by decide) (by decide))).append _).takes op

theorem value_takes (config : Config) (op : ArithmeticOp) {value : Value}
    (unsigned : op = .subtract → (Expr.literal value).isNegative = false) :
    op.Takes ((value.fragment config).sql config) := by
  have word {words : String} (c : Char) (head : words.toList.head? = some c) (minus : c ≠ '-') (star : c ≠ '*') :
      op.Takes words :=
    op.takes_of_head fun d same => Option.some.inj (head.symm.trans same) ▸ ⟨minus, star⟩
  cases value with
  | null =>
    rw [Value.fragment, sql_text]
    exact word 'n' rfl (by decide) (by decide)
  | bool value =>
    rw [Value.fragment, sql_text]
    cases value with
    | true => exact word 't' rfl (by decide) (by decide)
    | false => exact word 'f' rfl (by decide) (by decide)
  | string text =>
    rw [Value.fragment, sql_literal]
    exact word '\'' (by simp [Config.quote, LiteralEscape.quote]) (by decide) (by decide)
  | date value =>
    rw [Value.fragment, sql_text]
    exact word 'd' (by simp) (by decide) (by decide)
  | timestamp value =>
    rw [Value.fragment, sql_text]
    exact word 't' (by simp) (by decide) (by decide)
  | int value =>
    rw [Value.fragment, sql_text]
    refine op.takes_numeral (.toString _) fun minus => ?_
    have positive : ¬ value.toInt < 0 := of_decide_eq_false (unsigned minus)
    cases integer : value.toInt with
    | negSucc number => omega
    | ofNat number =>
      rw [Int.toString_eq_repr, Int.repr, Nat.toList_repr]
      exact (Unsigned.digits number).unsigned
  | float value =>
    rw [Value.fragment, sql_text, Value.floatText]
    split
    · next finite =>
      have numeral : Numeral (String.ofList (Decimal.sqlLayout.text value)).toList := by
        rw [String.toList_ofList]
        exact .float _ value
      refine op.takes_numeral numeral fun minus => ?_
      have positive : Decimal.isNegative value = false := by simpa [Expr.isNegative, finite] using unsigned minus
      rw [String.toList_ofList]
      exact (Unsigned.float _ positive).unsigned
    · exact word 'c' (by simp) (by decide) (by decide)

/-- The sign of an operator opens no comment with its right operand. -/
theorem expr_takes (op : ArithmeticOp) {e : Expr} (plain : ∀ name ∈ (Node.expr e).names, PlainWords name)
    (star : e ≠ .star) (unsigned : op = .subtract → e.isNegative = false) :
    op.Takes ((expr target e).sql target.config) := by
  cases e with
  | star => contradiction
  | literal value => exact value_takes target.config op unsigned
  | column column => exact column_takes target.config op plain
  | parameter parameter =>
    have starts : Starts target.config (.placeholder parameter) :=
      ⟨'?', by rw [sql_placeholder]; rfl, by decide, by decide⟩
    exact starts.takes op
  | arithmetic left inner right => exact (arithmetic_starts target left inner right _ _).takes op
  | function call =>
    obtain ⟨name, args, returnType⟩ := call
    exact (Starts.applied (plain name (.head _)) _).takes op
  | window call partitionBy orderBy =>
    obtain ⟨name, args, returnType⟩ := call
    have starts : Starts target.config (function target ⟨name, args, returnType⟩) :=
      .applied (plain name (.head _)) _
    exact (((((starts.append _).append _).append _).append _).append _).takes op
  | tuple => exact (Starts.parens _).takes op
  | subquery quantifier =>
    cases quantifier with
    | one => exact (Starts.parens _).takes op
    | any | every => exact (Starts.applied (by decide) _).takes op
  | summarization kind => exact (Starts.applied (by cases kind <;> decide) _).takes op

end Render

end PortableSql
