/-!
# Checked integers

Arithmetic on 64-bit integers is done on whole numbers and then fitted back; a result outside the
range is absent.
-/

set_option autoImplicit false

namespace Reckoner.Integer

/-- The smallest integer. -/
def least : Int := -9223372036854775808

/-- The largest integer. -/
def greatest : Int := 9223372036854775807

/-- The whole number as a 64-bit integer, if it is in range. -/
def fit? (n : Int) : Option Int64 :=
  if least ≤ n ∧ n ≤ greatest then some (Int64.ofInt n) else none

/-- The sum, if it is in range. -/
def add? (a b : Int64) : Option Int64 :=
  fit? (a.toInt + b.toInt)

/-- The difference, if it is in range. -/
def sub? (a b : Int64) : Option Int64 :=
  fit? (a.toInt - b.toInt)

/-- The product, if it is in range. -/
def mul? (a b : Int64) : Option Int64 :=
  fit? (a.toInt * b.toInt)

/-- The negative, if it is in range. -/
def neg? (a : Int64) : Option Int64 :=
  fit? (-a.toInt)

/-- The absolute value, if it is in range. -/
def abs? (a : Int64) : Option Int64 :=
  fit? (a.toInt.natAbs : Int)

/-- The quotient toward zero, if it is in range. -/
def quotient? (a b : Int64) : Option Int64 :=
  fit? (a.toInt.tdiv b.toInt)

/-- The remainder with the sign of `a`. It is absent where the quotient is out of range, although
the remainder itself would be zero there. -/
def remainder? (a b : Int64) : Option Int64 :=
  (quotient? a b).bind fun _ => fit? (a.toInt.tmod b.toInt)

/-- The power, if it is in range. From 64 on every base beyond one leaves the range, so only the
bases of absolute value at most one are raised that far, and for them the parity is enough. -/
def pow? (base : Int64) (exponent : Nat) : Option Int64 :=
  if exponent < 64 then fit? (Int.pow base.toInt exponent)
  else if base.toInt.natAbs ≤ 1 then fit? (Int.pow base.toInt (exponent % 2 + 2))
  else none

/-- The digits of an integer, after a minus sign if it is negative. -/
def chars (n : Int64) : List Char :=
  if n.toInt < 0 then '-' :: Nat.toDigits 10 n.toInt.natAbs else Nat.toDigits 10 n.toInt.natAbs

end Reckoner.Integer
