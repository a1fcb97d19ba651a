import Reckoner.Binary64.Nearest
import Reckoner.Integer
import Reckoner.Value.Basic

/-!
# Numerals

A numeral is an optional sign and digits, perhaps with a point and an exponent. One made of digits
alone is an integer where it fits; any other is the nearest double, if that is finite. The digits
of an exponent count up to a bound.
-/

set_option autoImplicit false

namespace Reckoner.Numeral

/-- The value of a row of digits. -/
def value (digits : List Char) : Nat :=
  Nat.ofDigitChars 10 digits 0

/-- A sign, and the characters after it. -/
def splitSign : List Char → Bool × List Char
  | '-' :: rest => (true, rest)
  | '+' :: rest => (false, rest)
  | chars => (false, chars)

/-- The whole number that a row of digits with an optional sign stands for. -/
def whole? (chars : List Char) : Option Int :=
  let (negative, digits) := splitSign chars
  if digits.isEmpty || !digits.all Char.isDigit then none
  else some (if negative then -(value digits : Int) else value digits)

/-- The integer that a row of digits with an optional sign stands for. -/
def integer? (chars : List Char) : Option Int64 :=
  (whole? chars).bind Integer.fit?

/-- The size from which the digits of an exponent no longer count. -/
def exponentBound : Nat := 65536

/-- The value of the digits of an exponent. Once it has reached the bound the digits that follow
leave it as it is. -/
def exponentValue (digits : List Char) : Nat :=
  digits.foldl (fun n c => if n < exponentBound then 10 * n + (c.toNat - '0'.toNat) else n) 0

/-- The exponent that a row of digits with an optional sign stands for. -/
def exponent? (chars : List Char) : Option Int :=
  let (negative, digits) := splitSign chars
  if digits.isEmpty || !digits.all Char.isDigit then none
  else some (if negative then -(exponentValue digits : Int) else exponentValue digits)

/-- What stands after the digits of a numeral: nothing, or `e` or `E` with an exponent. -/
def scale? : List Char → Option Int
  | [] => some 0
  | c :: rest => if c = 'e' ∨ c = 'E' then exponent? rest else none

/-- The decimal that an unsigned numeral stands for. Digits may be missing on one side of the
point, but not on both. -/
def decimal? (chars : List Char) : Option Decimal :=
  let whole := chars.takeWhile Char.isDigit
  let (fraction, rest) :=
    match chars.dropWhile Char.isDigit with
    | '.' :: after => (after.takeWhile Char.isDigit, after.dropWhile Char.isDigit)
    | rest => ([], rest)
  if whole.isEmpty && fraction.isEmpty then none
  else
    let digits := Decimal.ofParts whole fraction
    (scale? rest).map fun exponent => { digits with exponent := digits.exponent + exponent }

/-- The finite double that a numeral stands for. -/
def float? (chars : List Char) : Option Float :=
  let (negative, unsigned) := splitSign chars
  match decimal? unsigned with
  | none => none
  | some d =>
    let size := Binary64.ofDecimal d
    if Binary64.isFinite size then
      some (if negative then Binary64.negate size else size)
    else
      none

/-- The number that a text stands for: an integer where possible, else a double. -/
def number? (chars : List Char) : Option Number :=
  match integer? chars with
  | some n => some (.int n)
  | none => (float? chars).map .float

end Reckoner.Numeral
