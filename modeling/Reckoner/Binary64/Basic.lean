import Reckoner.Decimal.Basic

/-!
# Doubles by their bit patterns

A double is a sign and a 63-bit magnitude. Magnitudes grow with the absolute value, the magnitude
of infinity lies above every finite one, and those above it are no numbers. Order, sign and
finiteness are read off the pattern here; a finite double also has an exact rational value.
-/

set_option autoImplicit false

namespace Reckoner.Binary64

/-- The bit of the sign, and one more than the largest magnitude. -/
def signBit : Nat := 0x8000000000000000

/-- The magnitude of infinity. -/
def infinityMagnitude : Nat := 0x7ff0000000000000

/-- The number of patterns between two neighbouring powers of two. -/
def binade : Nat := 0x10000000000000

/-- The pattern without its sign. -/
def magnitude (x : Float) : Nat :=
  x.toBits.toNat % signBit

/-- The sign is set. -/
def isNegative (x : Float) : Bool :=
  decide (signBit ≤ x.toBits.toNat)

/-- The double with the given sign and magnitude. -/
def ofMagnitude (negative : Bool) (m : Nat) : Float :=
  Float.ofBits (UInt64.ofNat (if negative then signBit + m else m))

/-- The pattern stands for no number. -/
def isNaN (x : Float) : Bool :=
  decide (infinityMagnitude < magnitude x)

/-- The pattern stands for a real number. -/
def isFinite (x : Float) : Bool :=
  decide (magnitude x < infinityMagnitude)

/-- The double with the other sign. -/
def negate (x : Float) : Float :=
  ofMagnitude (!isNegative x) (magnitude x)

/-- The double without its sign. -/
def absolute (x : Float) : Float :=
  ofMagnitude false (magnitude x)

/-- A whole number that orders the doubles, both zeros taken as one. -/
def rank (x : Float) : Int :=
  if isNegative x then -(magnitude x : Int) else magnitude x

/-- The order of two doubles, absent when one of them is no number. -/
def compare? (x y : Float) : Option Ordering :=
  if isNaN x || isNaN y then none else some (compare (rank x) (rank y))

/-- The double is positive or negative zero. -/
def isZero (x : Float) : Bool :=
  magnitude x == 0

/-- The whole number that a magnitude multiplies its unit by. -/
def significand (m : Nat) : Nat :=
  if m < binade then m else m % binade + binade

/-- The exponent of two of the unit of a magnitude. -/
def unitExponent (m : Nat) : Int :=
  if m < binade then -1074 else (m / binade : Nat) - 1075

/-- The absolute value of a finite double. -/
def absRat (x : Float) : Rat :=
  (significand (magnitude x) : Rat) * power 2 (unitExponent (magnitude x))

/-- The value of a finite double. -/
def toRat (x : Float) : Rat :=
  if isNegative x then -absRat x else absRat x

end Reckoner.Binary64
