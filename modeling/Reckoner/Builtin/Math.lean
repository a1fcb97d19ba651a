import Reckoner.Binary64.Whole
import Reckoner.Builtin.Argument
import Reckoner.Integer

/-!
# Functions on numbers

Integers stay integers wherever the result is one; doubles are rounded from their exact values.
-/

set_option autoImplicit false

namespace Reckoner.Builtin

/-- The absolute value, of the same kind as the argument. -/
def absoluteValue (v : Value) : Except EvalError Value :=
  match numberOf .abs v with
  | .error e => .error e
  | .ok (.int n) => checked .abs (Integer.abs? n)
  | .ok (.float x) => .ok (.float (Binary64.absolute x))

/-- The best number so far against further arguments. A later one is better only if it stands in
the order `keep` to the best, so the first of equals is kept. -/
def extremeFrom (f : Builtin) (keep : Ordering) (best : Number) :
    List Value → Except EvalError Value
  | [] => .ok best.toValue
  | v :: more =>
    match numberOf f v with
    | .error e => .error e
    | .ok n => extremeFrom f keep (if n.compare? best = some keep then n else best) more

/-- The first argument that no other stands before in the order `keep`. -/
def extreme (f : Builtin) (keep : Ordering) (first : Value) (more : List Value) :
    Except EvalError Value :=
  match numberOf f first with
  | .error e => .error e
  | .ok n => extremeFrom f keep n more

/-- The square root of a number that is not negative. -/
def squareRoot (v : Value) : Except EvalError Value :=
  match numberOf .sqrt v with
  | .error e => .error e
  | .ok n =>
    if n.compare? (.int 0) = some .lt then .error (.invalidArgument .sqrt .negativeRoot)
    else finite .sqrt n.toFloat.sqrt

/-- A number made whole; an integer is whole already. -/
def whole (f : Builtin) (round : Rat → Int) (v : Value) : Except EvalError Value :=
  match numberOf f v with
  | .error e => .error e
  | .ok (.int n) => .ok (.int n)
  | .ok (.float x) =>
    checked f (if Binary64.isFinite x then Integer.fit? (round (Binary64.toRat x)) else none)

/-- The largest exponent of an integer power. -/
def largestExponent : Nat := 4294967295

/-- The power of an integer to a whole exponent that is not negative. -/
def integerPower (base : Int64) (exponent : Nat) : Except EvalError Value :=
  checked .pow (if exponent ≤ largestExponent then Integer.pow? base exponent else none)

/-- The power of two numbers as a double. -/
def floatPower (base exponent : Number) : Except EvalError Value :=
  if base.isZero && exponent.compare? (.int 0) = some .lt then .error .divideByZero
  else finite .pow (base.toFloat.pow exponent.toFloat)

/-- The power, an integer where both arguments are and the exponent is not negative. -/
def power (base exponent : Value) : Except EvalError Value :=
  match numberOf .pow base with
  | .error e => .error e
  | .ok b =>
    match numberOf .pow exponent with
    | .error e => .error e
    | .ok e =>
      match b, e with
      | .int m, .int n =>
        if 0 ≤ n.toInt then integerPower m n.toInt.toNat else floatPower b e
      | _, _ => floatPower b e

end Reckoner.Builtin
