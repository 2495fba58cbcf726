/-! Calendar dates and times of day, without a time zone.

Dates are those of the Gregorian calendar, extended to all years in both directions; the year before
year one is year zero. A value of these types exists only if it is a real date or time: the bounds
are part of the types, and `Date.ofParts?` and `Time.ofParts?` decide them.
-/

set_option autoImplicit false

namespace PortableSql

def isLeapYear (year : Int) : Bool :=
  year % 4 == 0 && (year % 100 != 0 || year % 400 == 0)

/-- The number of days of a month; zero for what is no month. -/
def daysOfMonth (year : Int) (month : Nat) : Nat :=
  match month with
  | 1 | 3 | 5 | 7 | 8 | 10 | 12 => 31
  | 4 | 6 | 9 | 11 => 30
  | 2 => if isLeapYear year then 29 else 28
  | _ => 0

def Date.firstYear : Int := -262143

def Date.lastYear : Int := 262142

def Date.exists? (year : Int) (month day : Nat) : Bool :=
  decide (Date.firstYear ≤ year) && decide (year ≤ Date.lastYear)
    && decide (1 ≤ day) && decide (day ≤ daysOfMonth year month)

structure Date where
  year : Int
  month : Nat
  day : Nat
  real : Date.exists? year month day = true
  deriving DecidableEq

def Date.ofParts? (year : Int) (month day : Nat) : Option Date :=
  if h : Date.exists? year month day = true then some ⟨year, month, day, h⟩ else none

def Time.nanosPerSecond : Nat := 1000000000

/-- A time of day. A minute may have a sixty-first second, numbered 60. -/
structure Time where
  hour : Nat
  minute : Nat
  second : Nat
  nanosecond : Nat
  hour_lt : hour < 24
  minute_lt : minute < 60
  second_le : second ≤ 60
  nanosecond_lt : nanosecond < Time.nanosPerSecond
  deriving DecidableEq

def Time.ofParts? (hour minute second nanosecond : Nat) : Option Time :=
  if h : hour < 24 ∧ minute < 60 ∧ second ≤ 60 ∧ nanosecond < Time.nanosPerSecond then
    some ⟨hour, minute, second, nanosecond, h.1, h.2.1, h.2.2.1, h.2.2.2⟩
  else none

structure Timestamp where
  date : Date
  time : Time
  deriving DecidableEq

theorem Date.ofParts?_eq (d : Date) : Date.ofParts? d.year d.month d.day = some d := by
  simp [Date.ofParts?, d.real]

theorem Time.ofParts?_eq (t : Time) :
    Time.ofParts? t.hour t.minute t.second t.nanosecond = some t := by
  simp [Time.ofParts?, t.hour_lt, t.minute_lt, t.second_le, t.nanosecond_lt]

end PortableSql
