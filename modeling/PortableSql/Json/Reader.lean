import PortableSql.Decimal.Value
import PortableSql.Json
import PortableSql.Text.Scan

/-! Reading JSON texts, in the strict grammar.

`Json.ofText?` takes a whole text: one value with blanks around it. The steps below each read a part
from the start of a text and answer with what is left. They descend on a bound, which the length of
the text always satisfies.
-/

set_option autoImplicit false

namespace PortableSql.Json

open Text

def isSpace (c : Char) : Bool :=
  c == ' ' || c == '\t' || c == '\n' || c == '\r'

def skipSpace (text : List Char) : List Char :=
  text.dropWhile isSpace

/-- A part of a string: a character, or the code unit of an escape. -/
inductive StringUnit where
  | char (c : Char)
  | code (unit : Nat)
  deriving DecidableEq, Repr

def shortEscape? : Char → Option Char
  | '"' => some '"'
  | '\\' => some '\\'
  | '/' => some '/'
  | 'b' => some '\x08'
  | 'f' => some '\x0c'
  | 'n' => some '\n'
  | 'r' => some '\r'
  | 't' => some '\t'
  | _ => none

def stringUnits : List Char → Option (List StringUnit × List Char)
  | [] => none
  | '"' :: rest => some ([], rest)
  | '\\' :: 'u' :: a :: b :: c :: d :: rest => do
    let unit ← hexNumber? [a, b, c, d]
    let (units, rest) ← stringUnits rest
    return (.code unit :: units, rest)
  | '\\' :: e :: rest => do
    let c ← shortEscape? e
    let (units, rest) ← stringUnits rest
    return (.char c :: units, rest)
  | c :: rest =>
    if c.toNat < 0x20 ∨ c = '\\' then none
    else do
      let (units, rest) ← stringUnits rest
      return (.char c :: units, rest)

def isHighSurrogate (unit : Nat) : Bool :=
  decide (0xD800 ≤ unit) && decide (unit < 0xDC00)

def isLowSurrogate (unit : Nat) : Bool :=
  decide (0xDC00 ≤ unit) && decide (unit < 0xE000)

/-- The characters that the parts of a string stand for. Surrogates have to stand in pairs. -/
def decodeUnits : List StringUnit → Option (List Char)
  | [] => some []
  | .char c :: rest => (decodeUnits rest).map (c :: ·)
  | .code high :: .code low :: rest =>
    if isHighSurrogate high && isLowSurrogate low then
      (decodeUnits rest).map
        (Char.ofNat (0x10000 + (high - 0xD800) * 0x400 + (low - 0xDC00)) :: ·)
    else if isHighSurrogate high || isLowSurrogate high then none
    else (decodeUnits (.code low :: rest)).map (Char.ofNat high :: ·)
  | .code unit :: rest =>
    if isHighSurrogate unit || isLowSurrogate unit then none
    else (decodeUnits rest).map (Char.ofNat unit :: ·)

/-- A string after its opening quote. The inner option is empty if it stands for no text. -/
def string? (text : List Char) : Option (Option String × List Char) := do
  let (units, rest) ← stringUnits text
  return ((decodeUnits units).map String.ofList, rest)

def wordMax : Nat := 18446744073709551615

def absorb : Nat → List Char → Nat × List Char
  | significand, [] => (significand, [])
  | significand, digit :: rest =>
    let longer := 10 * significand + (digit.toNat - '0'.toNat)
    if longer ≤ wordMax then absorb longer rest else (significand, digit :: rest)

structure Numeral where
  negative : Bool
  whole : List Char
  fraction : List Char := []
  exponent : Option Int := none

def numeral? (text : List Char) : Option (Numeral × List Char) := do
  let (negative, text) := match text with
    | '-' :: rest => (true, rest)
    | _ => (false, text)
  let (whole, text) := splitDigits text
  if whole.isEmpty || (whole.head? == some '0' && 1 < whole.length) then none
  let (fraction, text) ← match text with
    | '.' :: rest =>
      let (fraction, rest) := splitDigits rest
      if fraction.isEmpty then none else some (fraction, rest)
    | _ => some ([], text)
  let marked := match text with
    | 'e' :: rest => some rest
    | 'E' :: rest => some rest
    | _ => none
  match marked with
  | none => some (⟨negative, whole, fraction, none⟩, text)
  | some rest =>
    let (below, rest) := match rest with
      | '-' :: rest => (true, rest)
      | '+' :: rest => (false, rest)
      | _ => (false, rest)
    let (power, rest) := splitDigits rest
    if power.isEmpty then none
    else
      let size : Int := ofDigits power
      some (⟨negative, whole, fraction, some (if below then -size else size)⟩, rest)

/-- The floating-point number of a numeral, if it is finite. Digits beyond 64 bits are dropped, those
before the point leaving their power of ten behind. -/
def Numeral.float? (n : Numeral) : Option Float :=
  let (significand, wholeLeft) := absorb 0 n.whole
  let (significand, fractionLeft) := absorb significand n.fraction
  let taken : Int := n.fraction.length - fractionLeft.length
  let exponent := n.exponent.getD 0 + wholeLeft.length - taken
  (Decimal.scaled significand.toUInt64 exponent).map fun x => if n.negative then -x else x

/-- The value of a numeral. An integer that does not fit in 64 bits, and zero with a sign, are
floating-point numbers. -/
def Numeral.value (n : Numeral) : Json :=
  let size := ofDigits n.whole
  if n.fraction.isEmpty && n.exponent.isNone && !n.negative && decide (size ≤ wordMax) then
    .int size
  else if n.fraction.isEmpty && n.exponent.isNone && n.negative && size != 0
      && decide (size ≤ Nat.pow 2 63) then
    .int (-size)
  else match n.float? with
    | some x => .float x
    | none => .meaningless

mutual

def value? : Nat → List Char → Option (Json × List Char)
  | 0, _ => none
  | bound + 1, text =>
    match skipSpace text with
    | '"' :: rest => do
      let (content, rest) ← string? rest
      return ((content.map Json.string).getD .meaningless, rest)
    | '[' :: rest => match skipSpace rest with
      | ']' :: rest => some (.array [], rest)
      | rest => do
        let (items, rest) ← items? bound rest
        return (.array items, rest)
    | '\x7b' :: rest => match skipSpace rest with
      | '\x7d' :: rest => some (.object [], rest)
      | rest => do
        let (fields, rest) ← fields? bound rest
        match fields.mapM fun (name, value) => name.map (·, value) with
        | some fields => return (.object fields, rest)
        | none => return (.meaningless, rest)
    | 'n' :: rest => (afterWord? ['u', 'l', 'l'] rest).map (.null, ·)
    | 't' :: rest => (afterWord? ['r', 'u', 'e'] rest).map (.bool true, ·)
    | 'f' :: rest => (afterWord? ['a', 'l', 's', 'e'] rest).map (.bool false, ·)
    | rest => (numeral? rest).map fun (n, rest) => (n.value, rest)

def items? : Nat → List Char → Option (List Json × List Char)
  | 0, _ => none
  | bound + 1, text => do
    let (item, rest) ← value? bound text
    match skipSpace rest with
    | ']' :: rest => return ([item], rest)
    | ',' :: rest =>
      let (items, rest) ← items? bound rest
      return (item :: items, rest)
    | _ => none

def fields? : Nat → List Char → Option (List (Option String × Json) × List Char)
  | 0, _ => none
  | bound + 1, text => do
    let rest ← after? '"' (skipSpace text)
    let (name, rest) ← string? rest
    let rest ← after? ':' (skipSpace rest)
    let (value, rest) ← value? bound rest
    match skipSpace rest with
    | '\x7d' :: rest => return ([(name, value)], rest)
    | ',' :: rest =>
      let (fields, rest) ← fields? bound rest
      return ((name, value) :: fields, rest)
    | _ => none

end

def ofText? (text : String) : Option Json := do
  let chars := text.toList
  let (value, rest) ← value? (chars.length + 1) chars
  if (skipSpace rest).isEmpty then some value else none

end PortableSql.Json
