import Mathlib.Data.List.Basic
import PortableSql.Calendar.Text

/-! Dates and timestamps read back from their texts.

A number is read back from in front of anything but a digit, so that each part of a text is read on
its own and the rest stays as it is.
-/

set_option autoImplicit false

namespace PortableSql

namespace Text

theorem ofDigits_padded (width number : Nat) : ofDigits (padded width number) = number := by
  rw [ofDigits, padded, Nat.ofDigitChars_append, Nat.ofDigitChars_replicate_zero, Nat.mul_zero,
    Nat.ofDigitChars_toDigits (by decide) (by decide)]

theorem isDigit_of_mem_padded {width number : Nat} {c : Char} (mem : c ∈ padded width number) :
    c.isDigit = true := by
  rcases List.mem_append.mp mem with zero | digit
  · rw [(List.mem_replicate.mp zero).2]
    rfl
  · exact Nat.isDigit_of_mem_toDigits (by decide) (by decide) digit

theorem length_padded {width number : Nat} (fits : number < Nat.pow 10 width) (wide : 0 < width) :
    (padded width number).length = width := by
  have short : (Nat.toDigits 10 number).length ≤ width :=
    (Nat.length_toDigits_le_iff (by decide) wide).mpr fits
  rw [padded, List.length_append, List.length_replicate]
  omega

theorem padded_eq_cons (width number : Nat) :
    ∃ first rest, padded width number = first :: rest ∧ first.isDigit = true := by
  have filled : padded width number ≠ [] :=
    List.append_ne_nil_of_right_ne_nil _ Nat.toDigits_ne_nil
  obtain ⟨first, rest, split⟩ := List.exists_cons_of_ne_nil filled
  exact ⟨first, rest, split, isDigit_of_mem_padded (split ▸ List.mem_cons_self)⟩

theorem isBlank_of_isDigit {c : Char} (digit : c.isDigit = true) : isBlank c = false := by
  simp only [Char.isDigit, Bool.and_eq_true, decide_eq_true_eq, UInt32.le_iff_toNat_le] at digit
  have low : 48 ≤ c.toNat := digit.1
  have high : c.toNat ≤ 57 := digit.2
  simp only [isBlank, Bool.or_eq_false_iff, Bool.and_eq_false_iff, decide_eq_false_iff_not,
    beq_eq_false_iff_ne]
  omega

theorem skipBlanks_cons {c : Char} {rest : List Char} (solid : isBlank c = false) :
    skipBlanks (c :: rest) = c :: rest :=
  List.dropWhile_cons_of_neg (by rw [solid]; exact Bool.false_ne_true)

theorem skipBlanks_padded (width number : Nat) (rest : List Char) :
    skipBlanks (padded width number ++ rest) = padded width number ++ rest := by
  obtain ⟨first, others, split, digit⟩ := padded_eq_cons width number
  rw [split, List.cons_append, skipBlanks_cons (isBlank_of_isDigit digit)]

/-- Whether a text goes on with something else than a digit, or ends. -/
def EndsDigits (text : List Char) : Prop :=
  ∀ c ∈ text.head?, c.isDigit = false

theorem EndsDigits.nil : EndsDigits [] :=
  fun _ mem => absurd mem (Option.not_mem_none _)

theorem EndsDigits.cons {c : Char} {rest : List Char} (other : c.isDigit = false) :
    EndsDigits (c :: rest) := by
  intro d mem
  rw [← Option.mem_some.mp mem]
  exact other

theorem takeWhile_isDigit_take {rest : List Char} (ended : EndsDigits rest) (count : Nat) :
    (rest.take count).takeWhile Char.isDigit = [] := by
  cases count with
  | zero => rfl
  | succ count =>
    cases rest with
    | nil => rfl
    | cons c rest => simp [ended c rfl]

theorem number?_padded {most width number : Nat} {rest : List Char}
    (fits : (padded width number).length ≤ most) (ended : EndsDigits rest) :
    number? most (padded width number ++ rest) = some (number, rest) := by
  have digits : ((padded width number ++ rest).take most).takeWhile Char.isDigit
      = padded width number := by
    rw [List.take_append, List.take_of_length_le fits,
      List.takeWhile_append_of_pos fun _ => isDigit_of_mem_padded,
      takeWhile_isDigit_take ended, List.append_nil]
  obtain ⟨first, others, split, -⟩ := padded_eq_cons width number
  have filled : (padded width number).isEmpty = false := by rw [split]; rfl
  simp only [number?, digits, filled, ofDigits_padded, List.drop_left, Bool.false_eq_true, if_false]

theorem after?_cons (c : Char) (rest : List Char) : after? c (c :: rest) = some rest :=
  after?_eq_some_iff.mpr rfl

end Text

open Text

theorem Time.number?_twoDigits {number : Nat} {rest : List Char} (fits : number < 100)
    (ended : EndsDigits rest) : Time.number? (twoDigits number ++ rest) = some (number, rest) := by
  rw [Time.number?, twoDigits, skipBlanks_padded]
  have length : (padded 2 number).length = 2 := length_padded fits (by decide)
  exact number?_padded (Nat.le_of_eq length) ended

namespace Date

theorem year?_yearText (year : Int) {rest : List Char} (ended : EndsDigits rest) :
    year? (yearText year ++ rest) = some (year, rest) := by
  have whole : (padded 4 year.natAbs).length ≤ (padded 4 year.natAbs ++ rest).length := by
    rw [List.length_append]
    exact Nat.le_add_right _ _
  rw [yearText]
  split
  next short =>
    have fits : year.natAbs < 10 ^ 4 := by omega
    obtain ⟨first, others, split, digit⟩ := padded_eq_cons 4 year.natAbs
    have length := length_padded fits (by decide)
    have read := number?_padded (Nat.le_of_eq length) ended
    rw [year?, skipBlanks_padded]
    rw [split, List.cons_append] at read ⊢
    split
    next minus =>
      rw [(List.cons.inj minus).1] at digit
      exact absurd digit (by decide)
    next plus =>
      rw [(List.cons.inj plus).1] at digit
      exact absurd digit (by decide)
    next =>
      simp only [read, Option.map_some, Int.natAbs_of_nonneg short.1]
  next long =>
    by_cases negative : year < 0
    · rw [if_pos negative, List.cons_append, year?, skipBlanks_cons (by decide)]
      simp only [number?_padded whole ended, Option.map_some]
      rw [show -(year.natAbs : Int) = year by omega]
    · rw [if_neg negative, List.cons_append, year?, skipBlanks_cons (by decide)]
      simp only [number?_padded whole ended, Option.map_some]
      rw [show (year.natAbs : Int) = year by omega]

theorem daysOfMonth_le (year : Int) (month : Nat) : daysOfMonth year month ≤ 31 := by
  unfold daysOfMonth
  split <;> first | omega | (split <;> omega)

theorem day_lt (d : Date) : d.day < 100 := by
  have real := d.real
  simp only [exists?, Bool.and_eq_true, decide_eq_true_eq] at real
  exact Nat.lt_of_le_of_lt (Nat.le_trans real.2 (daysOfMonth_le _ _)) (by decide)

theorem month_lt (d : Date) : d.month < 100 := by
  have real := d.real
  simp only [exists?, Bool.and_eq_true, decide_eq_true_eq] at real
  have days : 1 ≤ daysOfMonth d.year d.month := Nat.le_trans real.1.2 real.2
  unfold daysOfMonth at days
  split at days <;> omega

/-- A date is read back from in front of anything that is neither a blank nor a digit. -/
theorem split?_text (d : Date) {rest : List Char} (ended : EndsDigits rest)
    (solid : skipBlanks rest = rest) : split? (d.text ++ rest) = some (d, rest) := by
  have hyphen : ∀ text, EndsDigits ('-' :: text) := fun _ => EndsDigits.cons (by decide)
  have shape : d.text ++ rest = yearText d.year
      ++ '-' :: (twoDigits d.month ++ '-' :: (twoDigits d.day ++ rest)) := by
    simp [text]
  rw [shape, split?, year?_yearText _ (hyphen _)]
  simp only [Option.bind_eq_bind, Option.bind_some, skipBlanks_cons (c := '-') (by decide),
    after?_cons, Time.number?_twoDigits d.month_lt (hyphen _),
    Time.number?_twoDigits d.day_lt ended, Date.ofParts?_eq, solid]
  rfl

theorem ofText?_text (d : Date) : ofText? d.text = some d := by
  have read := d.split?_text EndsDigits.nil rfl
  rw [List.append_nil] at read
  rw [ofText?, read]
  rfl

end Date

namespace Time

theorem fraction?_fractionText {nanosecond : Nat} (fits : nanosecond < nanosPerSecond) :
    fraction? (fractionText nanosecond) = some (nanosecond, []) := by
  -- The digits written, `width` of them, count units of `10 ^ (9 - width)` nanoseconds.
  have written (width number : Nat) (few : number < 10 ^ width) (wide : 0 < width)
      (small : width ≤ 9) : fraction? ('.' :: padded width number)
        = some (number * 10 ^ (9 - width), []) := by
    have length := length_padded few wide
    have read := number?_padded (Nat.le_trans (Nat.le_of_eq length) small) EndsDigits.nil
    rw [List.append_nil] at read
    simp only [fraction?, read, Option.map_some, length, List.length_nil, Nat.sub_zero]
    rfl
  unfold nanosPerSecond at fits
  rw [fractionText]
  split_ifs with none thousands millions
  · rw [none]
    rfl
  · rw [written 3 _ (by omega) (by decide) (by decide)]
    exact congrArg (fun n => some (n, [])) (by omega)
  · rw [written 6 _ (by omega) (by decide) (by decide)]
    exact congrArg (fun n => some (n, [])) (by omega)
  · rw [written 9 _ (by omega) (by decide) (by decide)]
    exact congrArg (fun n => some (n, [])) (by omega)

theorem fractionText_ends (nanosecond : Nat) : EndsDigits (fractionText nanosecond) := by
  rw [fractionText]
  split_ifs
  · exact EndsDigits.nil
  all_goals exact EndsDigits.cons (by decide)

theorem split?_text (t : Time) : split? t.text = some (t, []) := by
  have colon : ∀ text, EndsDigits (':' :: text) := fun _ => EndsDigits.cons (by decide)
  have shape : t.text = twoDigits t.hour ++ ':' :: (twoDigits t.minute
      ++ ':' :: (twoDigits t.second ++ fractionText t.nanosecond)) := by
    simp [text]
  have hour : t.hour < 100 := Nat.lt_trans t.hour_lt (by decide)
  have minute : t.minute < 100 := Nat.lt_trans t.minute_lt (by decide)
  have second : t.second < 100 := Nat.lt_of_le_of_lt t.second_le (by decide)
  rw [shape, split?, number?_twoDigits hour (colon _)]
  simp only [Option.bind_eq_bind, Option.bind_some, skipBlanks_cons (c := ':') (by decide),
    after?_cons, number?_twoDigits minute (colon _),
    number?_twoDigits second (fractionText_ends _),
    fraction?_fractionText t.nanosecond_lt, Time.ofParts?_eq]
  rfl

end Time

theorem Timestamp.ofText?_text (t : Timestamp) : ofText? (t.text 'T') = some t := by
  have mark : skipBlanks ('T' :: t.time.text) = 'T' :: t.time.text := skipBlanks_cons (by decide)
  have date := t.date.split?_text (EndsDigits.cons (by decide)) mark
  rw [ofText?, text, date]
  simp only [Option.bind_eq_bind, Option.bind_some, after?_cons, t.time.split?_text]
  rfl

end PortableSql
