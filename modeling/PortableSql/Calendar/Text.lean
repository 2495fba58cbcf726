import PortableSql.Calendar
import PortableSql.Text.Blank
import PortableSql.Text.Digits
import PortableSql.Text.Scan

/-! Dates and timestamps as text.

Written, a year has four digits, or a sign and at least four outside 0 to 9999; the other numbers
have two. A fraction of a second has the fewest of 0, 3, 6 or 9 digits that lose nothing. A reader
takes fewer digits, more digits after a sign, and blanks around each number but not around the point
of a fraction; digits of the fraction after the ninth are dropped.
-/

set_option autoImplicit false

namespace PortableSql

open Text

/-- A year of four digits, signed outside 0 to 9999. -/
def Date.yearText (year : Int) : List Char :=
  if 0 ≤ year ∧ year ≤ 9999 then padded 4 year.natAbs
  else (if year < 0 then '-' else '+') :: padded 4 year.natAbs

def Date.text (d : Date) : List Char :=
  Date.yearText d.year ++ '-' :: twoDigits d.month ++ '-' :: twoDigits d.day

/-- A fraction of a second, point included, in the fewest groups of three digits. -/
def Time.fractionText (nanosecond : Nat) : List Char :=
  if nanosecond = 0 then []
  else if nanosecond % 1000000 = 0 then '.' :: padded 3 (nanosecond / 1000000)
  else if nanosecond % 1000 = 0 then '.' :: padded 6 (nanosecond / 1000)
  else '.' :: padded 9 nanosecond

def Time.text (t : Time) : List Char :=
  twoDigits t.hour ++ ':' :: twoDigits t.minute ++ ':' :: twoDigits t.second
    ++ Time.fractionText t.nanosecond

def Timestamp.text (mark : Char) (t : Timestamp) : List Char :=
  t.date.text ++ mark :: t.time.text

def Time.number? (text : List Char) : Option (Nat × List Char) :=
  Text.number? 2 (skipBlanks text)

/-- A year: any number of digits after a sign, at most four without one. -/
def Date.year? (text : List Char) : Option (Int × List Char) :=
  match skipBlanks text with
  | '-' :: rest => (Text.number? rest.length rest).map fun (n, rest) => (-(n : Int), rest)
  | '+' :: rest => (Text.number? rest.length rest).map fun (n, rest) => ((n : Int), rest)
  | rest => (Text.number? 4 rest).map fun (n, rest) => ((n : Int), rest)

def Date.split? (text : List Char) : Option (Date × List Char) := do
  let (year, rest) ← Date.year? text
  let rest ← after? '-' (skipBlanks rest)
  let (month, rest) ← Time.number? rest
  let rest ← after? '-' (skipBlanks rest)
  let (day, rest) ← Time.number? rest
  let date ← Date.ofParts? year month day
  return (date, skipBlanks rest)

def Date.ofText? (text : List Char) : Option Date := do
  let (date, rest) ← Date.split? text
  if rest.isEmpty then some date else none

def Time.fraction? (text : List Char) : Option (Nat × List Char) :=
  match text with
  | '.' :: rest =>
    (Text.number? 9 rest).map fun (n, after) =>
      (n * Nat.pow 10 (9 - (rest.length - after.length)), (splitDigits after).2)
  | _ => some (0, text)

def Time.split? (text : List Char) : Option (Time × List Char) := do
  let (hour, rest) ← Time.number? text
  let rest ← after? ':' (skipBlanks rest)
  let (minute, rest) ← Time.number? rest
  let rest ← after? ':' (skipBlanks rest)
  let (second, rest) ← Time.number? rest
  let (nanosecond, rest) ← Time.fraction? rest
  let time ← Time.ofParts? hour minute second nanosecond
  return (time, rest)

/-- The timestamp that a whole text names, with `T` between date and time. -/
def Timestamp.ofText? (text : List Char) : Option Timestamp := do
  let (date, rest) ← Date.split? text
  let rest ← after? 'T' rest
  let (time, rest) ← Time.split? rest
  if (skipBlanks rest).isEmpty then some ⟨date, time⟩ else none

end PortableSql
