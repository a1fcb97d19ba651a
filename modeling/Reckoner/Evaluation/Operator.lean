import Reckoner.Binary64.Whole
import Reckoner.Evaluation.Error
import Reckoner.Integer

/-!
# Operators on values

Two integers give an integer where the exact result is one and fits; any other pair of numbers is
taken as doubles, and the result has to be finite. Addition also joins texts and lists. Equality
holds between any two values, order only between numbers and between texts.
-/

set_option autoImplicit false

namespace Reckoner

namespace BinaryOp

/-- The fault of operands of unfit kinds. -/
def mismatch (op : BinaryOp) (a b : Value) : EvalError :=
  .typeMismatch op a.kind b.kind

/-- An integer result, or the fault of leaving the range. -/
def intResult (op : BinaryOp) : Option Int64 → Except EvalError Value
  | some n => .ok (.int n)
  | none => .error (.overflow (.binary op))

/-- A double as a result, if it is finite. -/
def floatResult (op : BinaryOp) (x : Float) : Except EvalError Value :=
  if Binary64.isFinite x then .ok (.float x) else .error (.overflow (.binary op))

/-- Arithmetic on two numbers: on integers by `ints`, else by `floats`. -/
def arithmetic (op : BinaryOp) (ints : Int64 → Int64 → Option Int64)
    (floats : Float → Float → Float) : Number → Number → Except EvalError Value
  | .int a, .int b => intResult op (ints a b)
  | a, b => floatResult op (floats a.toFloat b.toFloat)

/-- The quotient of two numbers: an integer if it is whole, else a double. -/
def quotient : Number → Number → Except EvalError Value
  | .int a, .int b =>
    if a.toInt.tmod b.toInt = 0 then intResult .div (Integer.quotient? a b)
    else floatResult .div (Binary64.ofInt a.toInt / Binary64.ofInt b.toInt)
  | a, b => floatResult .div (a.toFloat / b.toFloat)

/-- A function of two numbers applied to two values. -/
def onNumbers (op : BinaryOp) (f : Number → Number → Except EvalError Value) (a b : Value) :
    Except EvalError Value :=
  match a.number?, b.number? with
  | some m, some n => f m n
  | _, _ => .error (op.mismatch a b)

/-- A division, refused for a zero divisor. -/
def divided (f : Number → Number → Except EvalError Value) (m n : Number) :
    Except EvalError Value :=
  if n.isZero then .error .divideByZero else f m n

/-- The sum of numbers, or texts or lists joined. -/
def sum : Value → Value → Except EvalError Value
  | .text a, .text b => .ok (.text (a ++ b))
  | .list as, .list bs => .ok (.list (as ++ bs))
  | a, b => onNumbers .add (arithmetic .add Integer.add? (· + ·)) a b

/-- An order test on two numbers or two texts. It fails on what is no number. -/
def ordered (op : BinaryOp) (test : Ordering → Bool) : Value → Value → Except EvalError Value
  | .text a, .text b => .ok (.bool (test (compare a b)))
  | a, b => onNumbers op (fun m n => .ok (.bool ((m.compare? n).any test))) a b

/-- The operator applied to two values. -/
def apply : BinaryOp → Value → Value → Except EvalError Value
  | .add, a, b => sum a b
  | .sub, a, b => onNumbers .sub (arithmetic .sub Integer.sub? (· - ·)) a b
  | .mul, a, b => onNumbers .mul (arithmetic .mul Integer.mul? (· * ·)) a b
  | .div, a, b => onNumbers .div (divided quotient) a b
  | .mod, a, b =>
    onNumbers .mod (divided (arithmetic .mod Integer.remainder? Binary64.remainder)) a b
  | .equal, a, b => .ok (.bool (a.equals b))
  | .notEqual, a, b => .ok (.bool (!a.equals b))
  | .less, a, b => ordered .less Ordering.isLT a b
  | .greater, a, b => ordered .greater Ordering.isGT a b
  | .lessEqual, a, b => ordered .lessEqual Ordering.isLE a b
  | .greaterEqual, a, b => ordered .greaterEqual Ordering.isGE a b

end BinaryOp

/-- The operator applied to a value. -/
def UnaryOp.apply : UnaryOp → Value → Except EvalError Value
  | .neg, .int n =>
    match Integer.neg? n with
    | some m => .ok (.int m)
    | none => .error (.overflow (.unary .neg))
  | .neg, .float x => .ok (.float (Binary64.negate x))
  | .not, .bool b => .ok (.bool (!b))
  | op, v => .error (.operandMismatch op v.kind)

end Reckoner
