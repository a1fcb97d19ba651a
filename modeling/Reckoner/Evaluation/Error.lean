import Reckoner.Builtin.Basic
import Reckoner.Expr
import Reckoner.Text.Quoted

/-!
# Faults of evaluation

Why an expression has no value.
-/

set_option autoImplicit false

namespace Reckoner

/-- Something that can leave the range of numbers. -/
inductive Operation where
  | binary (op : BinaryOp)
  | unary (op : UnaryOp)
  | function (b : Builtin)
deriving DecidableEq

/-- The operation as it is written. -/
def Operation.symbol : Operation → String
  | .binary op => op.symbol
  | .unary op => op.symbol
  | .function b => b.name

/-- What a function wanted for an argument. -/
inductive Wanted where
  | number
  | text
  | list
  | textOrList
deriving DecidableEq

/-- The wish in words. -/
def Wanted.describe : Wanted → String
  | .number => "a number"
  | .text => "text"
  | .list => "a list"
  | .textOrList => "text or a list"

/-- What is wrong with an argument. -/
inductive ArgumentFault where
  | kind (wanted : Wanted) (found : Kind)
  | notANumber
  | negativeRoot
  | emptyList
  | notNumeral (text : String)
deriving DecidableEq

/-- The fault in words. -/
def ArgumentFault.describe : ArgumentFault → String
  | .kind wanted found => "expected " ++ wanted.describe ++ ", got " ++ found.name
  | .notANumber => "result is not a number"
  | .negativeRoot => "cannot take the square root of a negative number"
  | .emptyList => "list is empty"
  | .notNumeral text => "cannot convert " ++ Text.quoted text ++ " to a number"

/-- Why an expression has no value. -/
inductive EvalError where
  | undefinedName (name : String)
  | typeMismatch (op : BinaryOp) (left right : Kind)
  | operandMismatch (op : UnaryOp) (operand : Kind)
  | divideByZero
  | overflow (operation : Operation)
  | unknownFunction (name : String)
  | wrongArgCount (function : Builtin) (found : Nat)
  | invalidArgument (function : Builtin) (fault : ArgumentFault)
deriving DecidableEq

namespace EvalError

/-- The number of the fault. -/
def code : EvalError → Nat
  | .undefinedName _ => 300
  | .typeMismatch _ _ _ => 301
  | .operandMismatch _ _ => 301
  | .divideByZero => 302
  | .overflow _ => 303
  | .unknownFunction _ => 304
  | .wrongArgCount _ _ => 305
  | .invalidArgument _ _ => 306

/-- The fault in words. -/
def message : EvalError → String
  | .undefinedName name => "undefined name '" ++ name ++ "'"
  | .typeMismatch op left right =>
    "cannot apply '" ++ op.symbol ++ "' to " ++ left.name ++ " and " ++ right.name
  | .operandMismatch op operand => "cannot apply '" ++ op.symbol ++ "' to " ++ operand.name
  | .divideByZero => "division by zero"
  | .overflow operation => "numeric overflow in '" ++ operation.symbol ++ "'"
  | .unknownFunction name => "unknown function '" ++ name ++ "'"
  | .wrongArgCount f found =>
    "'" ++ f.name ++ "' expects " ++ f.arity.describe ++ ", got " ++ toString found
  | .invalidArgument f fault =>
    "invalid argument to '" ++ f.name ++ "': " ++ fault.describe

end EvalError

end Reckoner
