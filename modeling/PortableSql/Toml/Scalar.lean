import PortableSql.Calendar
import PortableSql.Decimal.Value
import PortableSql.Text.Scan
import PortableSql.Toml

/-! The words of a TOML document that are no strings: numbers, booleans, dates and times.

Digits may be grouped by underscores, each between two digits. A number has no zeros in front. A date
has to exist, and so has a time of day.
-/

set_option autoImplicit false

namespace PortableSql.Toml

open Text

def isWordChar (c : Char) : Bool :=
  c.isAlphanum || c == '+' || c == '-' || c == '_' || c == '.' || c == ':'

/-- Digits without the underscores between them, for the whole of a text. -/
def ungroup? (isDigit : Char → Bool) : List Char → Option (List Char)
  | [] => none
  | [c] => if isDigit c then some [c] else none
  | c :: '_' :: rest => if isDigit c then (ungroup? isDigit rest).map (c :: ·) else none
  | c :: rest => if isDigit c then (ungroup? isDigit rest).map (c :: ·) else none

def hasLeadingZero (digits : List Char) : Bool :=
  digits.head? == some '0' && 1 < digits.length

def splitSign : List Char → Bool × List Char
  | '-' :: rest => (true, rest)
  | '+' :: rest => (false, rest)
  | text => (false, text)

def fitting? (n : Int) : Option Toml :=
  if Int64.minValue.toInt ≤ n ∧ n ≤ Int64.maxValue.toInt then some (.integer n) else none

def ofBase? (base : Nat) (digits : List Char) : Option Nat :=
  digits.foldlM (fun value c => match hexDigit? c with
    | some digit => if digit < base then some (base * value + digit) else none
    | none => none) 0

def ofBaseWord? (base : Nat) (text : List Char) : Option Toml := do
  let digits ← ungroup? (fun c => (hexDigit? c).isSome) text
  fitting? (← ofBase? base digits)

def integer? (word : List Char) : Option Toml :=
  match word with
  | '0' :: 'x' :: rest => ofBaseWord? 16 rest
  | '0' :: 'o' :: rest => ofBaseWord? 8 rest
  | '0' :: 'b' :: rest => ofBaseWord? 2 rest
  | _ => do
    let (negative, digits) := splitSign word
    let digits ← ungroup? Char.isDigit digits
    if hasLeadingZero digits then none
    else
      let size : Int := ofDigits digits
      fitting? (if negative then -size else size)

def cutAt (isMark : Char → Bool) (text : List Char) : List Char × Option (List Char) :=
  let before := text.takeWhile fun c => !isMark c
  match text.drop before.length with
  | [] => (before, none)
  | _ :: after => (before, some after)

def part? {α : Type} (read : List Char → Option α) : Option (List Char) → Option (Option α)
  | none => some none
  | some text => (read text).map some

def exponent? (text : List Char) : Option Int := do
  let (negative, digits) := splitSign text
  let size : Int := ofDigits (← ungroup? Char.isDigit digits)
  return if negative then -size else size

/-- A number with a fraction, a power of ten, or both; or one of the numbers that are not finite. -/
def float? (word : List Char) : Option Toml :=
  let (negative, text) := splitSign word
  if text = ['i', 'n', 'f'] then some (.float (if negative then -1.0 / 0.0 else 1.0 / 0.0))
  else if text = ['n', 'a', 'n'] then some (.float (0.0 / 0.0))
  else do
    let (mantissa, power) := cutAt (fun c => c == 'e' || c == 'E') text
    let (whole, fraction) := cutAt (· == '.') mantissa
    if power.isNone && fraction.isNone then none
    let whole ← ungroup? Char.isDigit whole
    let fraction ← part? (ungroup? Char.isDigit) fraction
    let power ← part? exponent? power
    if hasLeadingZero whole then none
    let fraction := fraction.getD []
    let x := Decimal.nearest negative (ofDigits (whole ++ fraction))
      (power.getD 0 - fraction.length)
    if x.isInf && !negative then none else some (.float x)

def digits? (count : Nat) (text : List Char) : Option (Nat × List Char) :=
  let digits := text.take count
  if digits.length = count ∧ digits.all Char.isDigit then
    some (ofDigits digits, text.drop count)
  else none

def date? (text : List Char) : Option (List Char × List Char) := do
  let (year, rest) ← digits? 4 text
  let (month, rest) ← digits? 2 (← after? '-' rest)
  let (day, rest) ← digits? 2 (← after? '-' rest)
  if Date.exists? year month day then some (text.take 10, rest) else none

def fractionText (digits : List Char) : List Char :=
  match ((digits.take 9).reverse.dropWhile (· == '0')).reverse with
  | [] => []
  | digits => '.' :: digits

def time? (text : List Char) : Option (List Char × List Char) := do
  let (hour, rest) ← digits? 2 text
  let (minute, rest) ← digits? 2 (← after? ':' rest)
  let (second, rest) ← digits? 2 (← after? ':' rest)
  let (fraction, rest) ← match rest with
    | '.' :: rest =>
      let (fraction, rest) := splitDigits rest
      if fraction.isEmpty then none else some (fraction, rest)
    | rest => some ([], rest)
  if hour < 24 ∧ minute < 60 ∧ second ≤ 60 then some (text.take 8 ++ fractionText fraction, rest)
  else none

/-- A distance from universal time, if there is one, and the rest of the text. No distance has the
sign plus. -/
def offset? (text : List Char) : Option (List Char × List Char) :=
  match text with
  | 'Z' :: rest | 'z' :: rest => some (['Z'], rest)
  | '+' :: rest => hours '+' rest
  | '-' :: rest => hours '-' rest
  | rest => some ([], rest)
where
  hours (sign : Char) (text : List Char) : Option (List Char × List Char) := do
    let (hour, rest) ← digits? 2 text
    let (minute, rest) ← digits? 2 (← after? ':' rest)
    if hour < 24 ∧ minute < 60 then
      some ((if hour = 0 ∧ minute = 0 then '+' else sign) :: text.take 5, rest)
    else none

def timeOffset? (text : List Char) : Option (List Char) := do
  let (time, rest) ← time? text
  let (offset, rest) ← offset? rest
  if rest.isEmpty then some (time ++ offset) else none

/-- A whole word as a date, a time of day, or both with the mark `T` between them. -/
def moment? (word : List Char) : Option (List Char) :=
  match date? word with
  | some (date, []) => some date
  | some (date, mark :: rest) =>
    if mark = 'T' ∨ mark = 't' then (timeOffset? rest).map (date ++ 'T' :: ·) else none
  | none => match time? word with
    | some (time, []) => some time
    | _ => none

def ofWord? (word : List Char) : Option Toml :=
  if word = ['t', 'r', 'u', 'e'] then some (.boolean true)
  else if word = ['f', 'a', 'l', 's', 'e'] then some (.boolean false)
  else match moment? word with
    | some text => some (.moment (String.ofList text))
    | none => (integer? word).or (float? word)

/-- The value of a word at the start of a text. A blank may take the place of the mark between a date
and a time of day. -/
def word? (text : List Char) : Option (Toml × List Char) :=
  let word := text.takeWhile isWordChar
  let rest := text.drop word.length
  let alone := (ofWord? word).map (·, rest)
  match date? word, rest with
  | some (date, []), ' ' :: more =>
    let next := more.takeWhile isWordChar
    match timeOffset? next with
    | some time => some (.moment (String.ofList (date ++ 'T' :: time)), more.drop next.length)
    | none => alone
  | _, _ => alone

end PortableSql.Toml
