import Reckoner.Binary64.Nearest

/-!
# Whole parts and remainders of doubles

Both are taken from the exact value, so neither loses anything to rounding.
-/

set_option autoImplicit false

namespace Reckoner.Binary64

/-- The whole number nearest to a rational, halfway away from zero. -/
def roundAway (q : Rat) : Int :=
  let size := if q < 0 then -q else q
  let rounded := (size + mkRat 1 2).floor
  if q < 0 then -rounded else rounded

/-- What is left of `x` after taking off as many whole `y` as fit. Its sign is that of `x`. There
is no remainder of an infinity, and none by zero. -/
def remainder (x y : Float) : Float :=
  if isFinite x && !isNaN y && !isZero y then
    if isFinite y then
      let quotient := (absRat x / absRat y).floor
      ofMagnitude (isNegative x) (nearestMagnitude (absRat x - absRat y * (quotient : Rat)))
    else x
  else ofMagnitude false (infinityMagnitude + 1)

end Reckoner.Binary64
