/-! Natural numbers in decimal digits, written with a least width and read with a greatest one. -/

set_option autoImplicit false

namespace PortableSql.Text

/-- The decimal digits of a number, with zeros in front up to a width. -/
def padded (width number : Nat) : List Char :=
  let digits := Nat.toDigits 10 number
  List.replicate (width - digits.length) '0' ++ digits

def ofDigits (digits : List Char) : Nat :=
  Nat.ofDigitChars 10 digits 0

def splitDigits (text : List Char) : List Char × List Char :=
  (text.takeWhile Char.isDigit, text.dropWhile Char.isDigit)

def number? (most : Nat) (text : List Char) : Option (Nat × List Char) :=
  let digits := (text.take most).takeWhile Char.isDigit
  if digits.isEmpty then none
  else some (ofDigits digits, text.drop digits.length)

def twoDigits (number : Nat) : List Char :=
  padded 2 number

end PortableSql.Text
