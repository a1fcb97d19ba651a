import Reckoner.Binary64.Basic

/-!
# The double nearest to a rational number

Rounding is to the nearest double, and halfway to the one with the even magnitude. The unit in
the last place is found from the sizes of numerator and denominator; the number of units, rounded
to a whole number, then gives the magnitude, and a carry into the next power of two needs no case
of its own.
-/

set_option autoImplicit false

namespace Reckoner.Binary64

/-- The nearest whole number, halfway to the even one. -/
def roundEven (q : Rat) : Int :=
  let low := q.floor
  let rest := q - (low : Rat)
  if rest + rest < 1 then low
  else if 1 < rest + rest then low + 1
  else low + low % 2

/-- The exponent of two of the last place of a positive rational: 52 places below its leading bit,
and never below that of the smallest double. -/
def lastPlace (q : Rat) : Int :=
  let guess : Int := (q.num.natAbs.log2 : Int) - (q.den.log2 : Int)
  let leading := if power 2 guess ≤ q then guess else guess - 1
  max (leading - 52) (-1074)

/-- The magnitude of the double nearest to a rational that is not negative. -/
def nearestMagnitude (q : Rat) : Nat :=
  if q.num = 0 then 0 else
    let place := lastPlace q
    let units := (roundEven (q / power 2 place)).toNat
    min infinityMagnitude ((place + 1074).toNat * binade + units)

/-- The double nearest to a rational; positive zero for zero. -/
def nearest (q : Rat) : Float :=
  if q < 0 then ofMagnitude true (nearestMagnitude (-q))
  else ofMagnitude false (nearestMagnitude q)

/-- The double nearest to a whole number. -/
def ofInt (n : Int) : Float :=
  nearest (n : Rat)

/-- The double nearest to a decimal. Decimals far outside the range are decided by a bound on their
size, so that no huge power of ten is formed for them. -/
def ofDecimal (d : Decimal) : Float :=
  if d.coefficient = 0 then ofMagnitude false 0
  else if d.unreachedPower < -400 then ofMagnitude false 0
  else if 400 < d.reachedPower then ofMagnitude false infinityMagnitude
  else nearest d.toRat

end Reckoner.Binary64
