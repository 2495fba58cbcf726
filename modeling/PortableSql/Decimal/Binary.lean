/-! Binary floating-point numbers as exact fractions.

A finite number is a significand times a power of two. The reals that round to it form an interval
around it, whose ends belong to it when the significand is even; the lower half of the interval is
half as wide where the spacing of the numbers changes.
-/

set_option autoImplicit false

namespace PortableSql.Decimal

/-- A positive finite number: `significand` times two to the power `exponent`. -/
structure Binary where
  significand : Nat
  exponent : Int
  -- Whether the number below is only half as far away as the one above.
  closerBelow : Bool
  deriving DecidableEq, Repr

namespace Binary

def ofBits (bits : UInt64) : Binary :=
  let fraction : Nat := bits.toNat % Nat.pow 2 52
  let exponent : Nat := bits.toNat / Nat.pow 2 52 % Nat.pow 2 11
  if exponent = 0 then ⟨fraction, -1074, false⟩
  else ⟨Nat.pow 2 52 + fraction, (exponent : Int) - 1075, fraction == 0 && exponent != 1⟩

structure Fraction where
  num : Nat
  den : Nat
  deriving DecidableEq, Repr

/-- A quarter of the last place of the number, times `count`, over ten to the power `grid`. -/
def quarters (b : Binary) (count : Nat) (grid : Int) : Fraction where
  num := count * Nat.pow 2 (b.exponent - 2).toNat * Nat.pow 10 (-grid).toNat
  den := Nat.pow 2 (2 - b.exponent).toNat * Nat.pow 10 grid.toNat

def ratio (b : Binary) (grid : Int) : Fraction :=
  b.quarters (4 * b.significand) grid

def lower (b : Binary) (grid : Int) : Fraction :=
  b.quarters (4 * b.significand - if b.closerBelow then 1 else 2) grid

def upper (b : Binary) (grid : Int) : Fraction :=
  b.quarters (4 * b.significand + 2) grid

/-- Whether a multiple of ten to the power `grid` rounds to the number. -/
def reads (b : Binary) (multiple : Nat) (grid : Int) : Bool :=
  let low := b.lower grid
  let high := b.upper grid
  if b.significand % 2 = 0 then
    decide (low.num ≤ multiple * low.den) && decide (multiple * high.den ≤ high.num)
  else decide (low.num < multiple * low.den) && decide (multiple * high.den < high.num)

/-- The power of ten of the first decimal digit, for a significand above zero. -/
def magnitude (b : Binary) : Int :=
  let scaled := b.ratio (-400)
  ((Nat.toDigits 10 (scaled.num / scaled.den)).length : Int) - 401

end Binary

def isFinite (x : Float) : Bool :=
  x.toBits.toNat / Nat.pow 2 52 % Nat.pow 2 11 != 2047

def isNegative (x : Float) : Bool :=
  x.toBits.toNat / Nat.pow 2 63 == 1

end PortableSql.Decimal
