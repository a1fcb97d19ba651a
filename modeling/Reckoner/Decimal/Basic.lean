/-!
# Decimals

A decimal is a natural coefficient times a power of ten. The same value may be written with
several coefficients; `reduce` picks the smallest.
-/

set_option autoImplicit false

namespace Reckoner

/-- An integral power of a natural base, as a rational number. -/
def power (base : Nat) : Int → Rat
  | .ofNat k => mkRat (Nat.pow base k) 1
  | .negSucc k => mkRat 1 (Nat.pow base (k + 1))

/-- The number `coefficient * 10 ^ exponent`. -/
structure Decimal where
  coefficient : Nat
  exponent : Int
deriving DecidableEq

namespace Decimal

/-- The exact value. -/
def toRat (d : Decimal) : Rat :=
  (d.coefficient : Rat) * power 10 d.exponent

/-- The digits of the coefficient, most significant first. -/
def digits (d : Decimal) : List Char :=
  Nat.toDigits 10 d.coefficient

/-- The exponent of ten that belongs to the first digit. -/
def leading (d : Decimal) : Int :=
  d.exponent + d.digits.length - 1

/-- An exponent of ten that a value other than zero reaches: ten bits of the coefficient are worth
three digits at least. -/
def reachedPower (d : Decimal) : Int :=
  d.exponent + (d.coefficient.log2 / 10 * 3 : Nat)

/-- An exponent of ten that the value stays below: three bits of the coefficient are worth one
digit at most. -/
def unreachedPower (d : Decimal) : Int :=
  d.exponent + (d.coefficient.log2 / 3 + 1 : Nat)

/-- Moves the zeros at the end of a coefficient into the exponent. -/
def reduceFrom (coefficient : Nat) (exponent : Int) : Decimal :=
  if coefficient ≠ 0 ∧ coefficient % 10 = 0 then
    reduceFrom (coefficient / 10) (exponent + 1)
  else
    ⟨coefficient, exponent⟩
termination_by coefficient
decreasing_by omega

/-- The same value with the smallest coefficient. -/
def reduce (d : Decimal) : Decimal :=
  reduceFrom d.coefficient d.exponent

/-- The decimal with the digits `whole` before the point and `fraction` after it. -/
def ofParts (whole fraction : List Char) : Decimal where
  coefficient := Nat.ofDigitChars 10 (whole ++ fraction) 0
  exponent := -(fraction.length : Int)

end Decimal

end Reckoner
