import PortableSql.Decimal.Binary

/-! The shortest decimal that reads back as a given floating-point number, and its layouts.

The grids of one, two, up to seventeen significant digits are tried in turn. The first grid with a
point that rounds to the number has its nearest such point among the two neighbours of the number;
of two equally near ones a layout chooses.
-/

set_option autoImplicit false

namespace PortableSql.Decimal

inductive Tie where
  | up
  | even
  deriving DecidableEq, Repr

structure Number where
  digits : Nat
  exponent : Int
  deriving DecidableEq, Repr

/-- The multiple of ten to the power `grid` that is nearest to a number among those that round to
it, if one does. -/
def nearestOnGrid (tie : Tie) (b : Binary) (grid : Int) : Option Nat :=
  let exact := b.ratio grid
  let below := exact.num / exact.den
  let above := below + 1
  match b.reads below grid, b.reads above grid with
  | false, false => none
  | true, false => some below
  | false, true => some above
  | true, true =>
    let twice := 2 * (exact.num % exact.den)
    if twice < exact.den then some below
    else if exact.den < twice then some above
    else match tie with
      | .up => some above
      | .even => some (if below % 2 = 0 then below else above)

/-- The first hit on the grids of `used + 1`, `used + 2`, … digits. -/
def searchGrids (tie : Tie) (b : Binary) : (left used : Nat) → Option Number
  | 0, _ => none
  | left + 1, used =>
    let grid := b.magnitude - used
    match nearestOnGrid tie b grid with
    | some digits => if digits = 0 then searchGrids tie b left (used + 1) else some ⟨digits, grid⟩
    | none => searchGrids tie b left (used + 1)

/-- The shortest decimal that rounds to a number; seventeen digits always suffice. -/
def shortest (tie : Tie) (b : Binary) : Number :=
  (searchGrids tie b 17 0).getD ⟨b.significand, 0⟩

structure Layout where
  -- The least power of ten of a first digit that is written out.
  leastWritten : Int
  greatestWritten : Int
  -- Whether a power of ten above zero has a sign.
  signed : Bool
  tie : Tie

def writtenOut (digits : List Char) (magnitude : Int) : List Char :=
  if magnitude < 0 then '0' :: '.' :: List.replicate (-magnitude - 1).toNat '0' ++ digits
  else
    let whole := magnitude.toNat + 1
    let before := digits.take whole ++ List.replicate (whole - digits.length) '0'
    let after := digits.drop whole
    before ++ '.' :: if after.isEmpty then ['0'] else after

def scientific (signed : Bool) (digits : List Char) (magnitude : Int) : List Char :=
  let mantissa := match digits with
    | first :: rest => if rest.isEmpty then [first] else first :: '.' :: rest
    | [] => []
  let sign := if magnitude < 0 then ['-'] else if signed then ['+'] else []
  mantissa ++ 'e' :: sign ++ Nat.toDigits 10 magnitude.natAbs

def significantDigits (d : Number) : List Char :=
  ((Nat.toDigits 10 d.digits).reverse.dropWhile (· == '0')).reverse

def Layout.positive (layout : Layout) (b : Binary) : List Char :=
  let d := shortest layout.tie b
  let magnitude := d.exponent + (Nat.toDigits 10 d.digits).length - 1
  if layout.leastWritten ≤ magnitude ∧ magnitude ≤ layout.greatestWritten then
    writtenOut (significantDigits d) magnitude
  else scientific layout.signed (significantDigits d) magnitude

def Layout.text (layout : Layout) (x : Float) : List Char :=
  let b := Binary.ofBits x.toBits
  let unsigned := if b.significand = 0 then ['0', '.', '0'] else layout.positive b
  if isNegative x then '-' :: unsigned else unsigned

/-- Numbers in SQL are written out from 0.0001 up to 10^16; halves go up. -/
def sqlLayout : Layout := ⟨-4, 15, false, .up⟩

/-- Numbers in JSON are written out from 0.00001 up to 10^16, and powers of ten have a sign; halves go
to the even neighbour. -/
def jsonLayout : Layout := ⟨-5, 15, true, .even⟩

end PortableSql.Decimal
