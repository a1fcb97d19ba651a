import Reckoner.Binary64.Nearest

/-!
# Shortest decimals of doubles

The decimal of a double has the fewest digits that read back as the same double, and of those it
is the nearest to the exact value. With `n` digits only the two neighbours of the value on the
grid of `n`-digit decimals have to be tried. If both read back and are equally near, the caller's
rule decides.
-/

set_option autoImplicit false

namespace Reckoner.Binary64

/-- Which of two equally near decimals is taken. -/
inductive Tie where
  | up
  | even
deriving DecidableEq

/-- The decimal reads back as the double of the given magnitude. -/
def readsAs (m : Nat) (d : Decimal) : Bool :=
  nearestMagnitude d.toRat == m

/-- The exponent of ten of the first digit of a positive rational. -/
def leadingPlace (q : Rat) : Int :=
  let guess : Int :=
    ((Nat.toDigits 10 q.num.natAbs).length : Int) - ((Nat.toDigits 10 q.den).length : Int)
  if power 10 guess ≤ q then guess else guess - 1

/-- The nearer of two neighbours around `q`, of which `below` is at most `q`. -/
def nearer (tie : Tie) (q : Rat) (below above : Decimal) : Decimal :=
  if q + q < below.toRat + above.toRat then below
  else if below.toRat + above.toRat < q + q then above
  else
    match tie with
    | .up => above
    | .even => if below.coefficient % 2 = 0 then below else above

/-- The decimal of `n` digits for the magnitude `m` of value `q`, if one reads back. -/
def withDigits (tie : Tie) (m : Nat) (q : Rat) (n : Nat) : Option Decimal :=
  let place := leadingPlace q + 1 - (n : Int)
  let low := (q / power 10 place).floor.toNat
  let below : Decimal := ⟨low, place⟩
  let above : Decimal := ⟨low + 1, place⟩
  match readsAs m below, readsAs m above with
  | true, true => some (nearer tie q below above)
  | true, false => some below
  | false, true => some above
  | false, false => none

/-- All digits of `significand * 2 ^ exponent`. -/
def exactDecimal (significand : Nat) : Int → Decimal
  | .ofNat k => ⟨significand * Nat.pow 2 k, 0⟩
  | .negSucc k => ⟨significand * Nat.pow 5 (k + 1), .negSucc k⟩

/-- The shortest decimal of the absolute value of a finite double. -/
def shortest (tie : Tie) (x : Float) : Decimal :=
  let m := magnitude x
  if m = 0 then ⟨0, 0⟩ else
    let found := (List.range 17).findSome? fun n => withDigits tie m (absRat x) (n + 1)
    (found.getD (exactDecimal (significand m) (unitExponent m))).reduce

end Reckoner.Binary64
