import Mathlib.Tactic.SplitIfs
import PortableSql.Render.Leaf

/-! The characters of numbers, dates and times.

They are digits, signs and what stands between them; quotes and backslashes are not among them. In numbers
there are no blanks either (`Figures`).
-/

set_option autoImplicit false

namespace PortableSql

def isFigure (c : Char) : Bool :=
  c.isDigit || "+-.e".toList.contains c

/-- A text of digits, signs, points and powers. -/
abbrev Figures (text : List Char) : Prop :=
  ∀ c ∈ text, isFigure c = true

def isNumeral (c : Char) : Bool :=
  c.isDigit || "+-.:e ".toList.contains c

/-- A text of digits, signs and what stands between them. -/
abbrev Numeral (text : List Char) : Prop :=
  ∀ c ∈ text, isNumeral c = true

namespace Figures

theorem numeral {text : List Char} (figures : Figures text) : Numeral text := by
  intro c mem
  have own := figures c mem
  simp only [isFigure, isNumeral, Bool.or_eq_true, List.contains_iff_mem] at own ⊢
  have wider : "+-.e".toList ⊆ "+-.:e ".toList := by decide
  exact own.imp_right fun sign => wider sign

theorem append {first second : List Char} (left : Figures first) (right : Figures second) :
    Figures (first ++ second) :=
  List.forall_mem_append.mpr ⟨left, right⟩

theorem cons {c : Char} {text : List Char} (own : isFigure c = true) (rest : Figures text) :
    Figures (c :: text) :=
  List.forall_mem_cons.mpr ⟨own, rest⟩

theorem replicate (count : Nat) {c : Char} (own : isFigure c = true) : Figures (List.replicate count c) :=
  fun _ mem => List.eq_of_mem_replicate mem ▸ own

theorem toDigits (number : Nat) : Figures (Nat.toDigits 10 number) := by
  intro c mem
  rw [isFigure, Nat.isDigit_of_mem_toDigits (by decide) (by decide) mem, Bool.true_or]

theorem toString (value : Int) : Figures (ToString.toString value).toList := by
  rw [Int.toString_eq_repr]
  cases value with
  | ofNat value =>
    rw [Int.repr, Nat.toList_repr]
    exact toDigits value
  | negSucc value =>
    rw [Int.repr, String.toList_append, Nat.toList_repr]
    have sign : "-".toList = ['-'] := rfl
    rw [sign]
    exact cons rfl (toDigits _)

theorem writtenOut {digits : List Char} (numeral : Figures digits) (magnitude : Int) :
    Figures (Decimal.writtenOut digits magnitude) := by
  have before : Figures (digits.take (magnitude.toNat + 1)) := fun c mem => numeral c (List.mem_of_mem_take mem)
  have after : Figures (digits.drop (magnitude.toNat + 1)) := fun c mem => numeral c (List.mem_of_mem_drop mem)
  rw [Decimal.writtenOut]
  split
  · exact (cons rfl (cons rfl (replicate _ rfl))).append numeral
  · refine (before.append (replicate _ rfl)).append (cons rfl ?_)
    split
    · exact cons rfl nofun
    · exact after

theorem scientific (signed : Bool) {digits : List Char} (numeral : Figures digits) (magnitude : Int) :
    Figures (Decimal.scientific signed digits magnitude) := by
  have power : Figures ('e' :: (if magnitude < 0 then ['-'] else if signed then ['+'] else []) ++
      Nat.toDigits 10 magnitude.natAbs) := by
    refine append (cons rfl ?_) (toDigits _)
    split_ifs
    · exact cons rfl nofun
    · exact cons rfl nofun
    · exact nofun
  cases digits with
  | nil => exact power
  | cons first rest =>
    obtain ⟨own, others⟩ := List.forall_mem_cons.mp numeral
    have mantissa : Figures (if rest.isEmpty then [first] else first :: '.' :: rest) := by
      split
      · exact cons own nofun
      · exact cons own (cons rfl others)
    rw [Decimal.scientific, List.append_assoc]
    exact mantissa.append power

theorem float (layout : Decimal.Layout) (x : Float) : Figures (layout.text x) := by
  have digits (number : Decimal.Number) : Figures (Decimal.significantDigits number) := fun c mem =>
    toDigits number.digits c <| List.mem_reverse.mp <|
      (List.dropWhile_sublist _).subset (List.mem_reverse.mp mem)
  have unsigned (b : Decimal.Binary) : Figures (layout.positive b) := by
    rw [Decimal.Layout.positive]
    split
    · exact writtenOut (digits _) _
    · exact scientific _ (digits _) _
  have zero : Figures ['0', '.', '0'] := cons rfl (cons rfl (cons rfl nofun))
  rw [Decimal.Layout.text]
  split_ifs
  · exact cons rfl zero
  · exact cons rfl (unsigned _)
  · exact zero
  · exact unsigned _

theorem float_ne_nil (layout : Decimal.Layout) (x : Float) : layout.text x ≠ [] := by
  have unsigned (b : Decimal.Binary) : layout.positive b ≠ [] := by
    rw [Decimal.Layout.positive]
    split
    · rw [Decimal.writtenOut]
      split
      · exact List.cons_ne_nil _ _
      · exact List.append_ne_nil_of_right_ne_nil _ (List.cons_ne_nil _ _)
    · unfold Decimal.scientific
      simp
  rw [Decimal.Layout.text]
  split_ifs
  · exact List.cons_ne_nil _ _
  · exact List.cons_ne_nil _ _
  · exact List.cons_ne_nil _ _
  · exact unsigned _

theorem toString_ne_nil (value : Int) : (ToString.toString value).toList ≠ [] := by
  rw [Int.toString_eq_repr]
  cases value with
  | ofNat value =>
    rw [Int.repr, Nat.toList_repr]
    exact Nat.toDigits_ne_nil
  | negSucc value =>
    rw [Int.repr, String.toList_append]
    exact List.cons_ne_nil _ _

theorem isWhitespace_eq_false {c : Char} (figure : isFigure c = true) : c.isWhitespace = false := by
  refine Bool.eq_false_iff.mpr fun blank => ?_
  simp only [Char.isWhitespace, Bool.or_eq_true, decide_eq_true_eq] at blank
  rcases blank with ((rfl | rfl) | rfl) | rfl <;> contradiction

end Figures

namespace Numeral

theorem not_mem {text : List Char} (numeral : Numeral text) {c : Char} (other : isNumeral c = false) :
    c ∉ text :=
  fun mem => Bool.false_ne_true (other.symm.trans (numeral c mem))

theorem append {first second : List Char} (left : Numeral first) (right : Numeral second) :
    Numeral (first ++ second) :=
  List.forall_mem_append.mpr ⟨left, right⟩

theorem cons {c : Char} {text : List Char} (own : isNumeral c = true) (rest : Numeral text) :
    Numeral (c :: text) :=
  List.forall_mem_cons.mpr ⟨own, rest⟩

theorem padded (width number : Nat) : Numeral (Text.padded width number) :=
  ((Figures.replicate _ rfl).append (Figures.toDigits number)).numeral

theorem toString (value : Int) : Numeral (ToString.toString value).toList :=
  (Figures.toString value).numeral

theorem date (value : Date) : Numeral value.text := by
  have year : Numeral (Date.yearText value.year) := by
    rw [Date.yearText]
    split
    · exact padded 4 _
    · exact cons (by split <;> rfl) (padded 4 _)
  exact (year.append (cons rfl (padded 2 _))).append (cons rfl (padded 2 _))

theorem time (value : Time) : Numeral value.text := by
  have fraction : Numeral (Time.fractionText value.nanosecond) := by
    rw [Time.fractionText]
    split_ifs
    · exact nofun
    · exact cons rfl (padded 3 _)
    · exact cons rfl (padded 6 _)
    · exact cons rfl (padded 9 _)
  exact (((padded 2 _).append (cons rfl (padded 2 _))).append (cons rfl (padded 2 _))).append fraction

theorem timestamp {mark : Char} (own : isNumeral mark = true) (value : Timestamp) : Numeral (value.text mark) :=
  (date value.date).append (cons own (time value.time))

theorem float (layout : Decimal.Layout) (x : Float) : Numeral (layout.text x) :=
  (Figures.float layout x).numeral

end Numeral

end PortableSql
