import PortableSql.Text.Digits

/-! The floating-point value of a decimal.

`nearest` rounds once. `scaled` is the value that a reader of JSON takes: the digits as a whole number
of 64 bits, rounded, then multiplied or divided by powers of ten, each step rounding; it is `nearest`
wherever digits and power are small enough to be exact.
-/

set_option autoImplicit false

namespace PortableSql.Decimal

/-- The floating-point number nearest to a decimal. Powers beyond the range of all finite numbers are
cut off first. -/
def nearest (negative : Bool) (digits : Nat) (exponent : Int) : Float :=
  let size : Int := (Nat.toDigits 10 digits).length
  let magnitude :=
    if digits = 0 ∨ exponent + size < -400 then 0.0
    else if 400 < exponent then Float.ofScientific 1 false 400
    else if exponent < 0 then Float.ofScientific digits true (-exponent).toNat
    else Float.ofScientific digits false exponent.toNat
  if negative then -magnitude else magnitude

def greatestPower : Nat := 308

def powerOfTen (exponent : Nat) : Float :=
  Float.ofScientific 1 false exponent

/-- Divide by ten to a power, in steps that have a finite power of ten. -/
def divided (x : Float) (power : Nat) : Float :=
  if power ≤ greatestPower then x / powerOfTen power
  else if x == 0.0 then x
  else divided (x / powerOfTen greatestPower) (power - greatestPower)
termination_by power
decreasing_by simp only [greatestPower] at *; omega

/-- The value of digits times a power of ten; none if it is too large to be finite. -/
def scaled (digits : UInt64) (exponent : Int) : Option Float :=
  let x := digits.toFloat
  if exponent < 0 then some (divided x exponent.natAbs)
  else if exponent.natAbs ≤ greatestPower then
    let product := x * powerOfTen exponent.natAbs
    if product.isInf then none else some product
  else if x == 0.0 then some x
  else none

end PortableSql.Decimal
