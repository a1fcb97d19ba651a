import Reckoner.Span
import Reckoner.Value.Basic

/-!
# Expressions and statements

An expression keeps the span of the text it was read from. A statement is blank, an expression, or
the assignment of an expression to a name.
-/

set_option autoImplicit false

namespace Reckoner

/-- The operators between two operands. -/
inductive BinaryOp where
  | equal
  | notEqual
  | less
  | greater
  | lessEqual
  | greaterEqual
  | add
  | sub
  | mul
  | div
  | mod
deriving DecidableEq

/-- The operator as it is written. -/
def BinaryOp.symbol : BinaryOp → String
  | .equal => "=="
  | .notEqual => "!="
  | .less => "<"
  | .greater => ">"
  | .lessEqual => "<="
  | .greaterEqual => ">="
  | .add => "+"
  | .sub => "-"
  | .mul => "*"
  | .div => "/"
  | .mod => "%"

/-- The operators before one operand. -/
inductive UnaryOp where
  | neg
  | not
deriving DecidableEq

/-- The operator as it is written. -/
def UnaryOp.symbol : UnaryOp → String
  | .neg => "-"
  | .not => "not"

/-- An expression with the spans of its parts. -/
inductive Expr where
  | literal (value : Value) (span : Span)
  | list (items : List Expr) (span : Span)
  | name (name : String) (span : Span)
  | call (function : String) (functionSpan : Span) (arguments : List Expr) (span : Span)
  | binary (op : BinaryOp) (left right : Expr) (span : Span)
  | unary (op : UnaryOp) (operand : Expr) (span : Span)
  | paren (inner : Expr) (span : Span)

/-- The span of the text that the expression was read from. -/
def Expr.span : Expr → Span
  | .literal _ s => s
  | .list _ s => s
  | .name _ s => s
  | .call _ _ _ s => s
  | .binary _ _ _ s => s
  | .unary _ _ s => s
  | .paren _ s => s

/-- What one line says. -/
inductive Statement where
  | blank (span : Span)
  | expr (value : Expr)
  | assign (name : String) (nameSpan : Span) (value : Expr)

/-- The span of the text that the statement was read from. -/
def Statement.span : Statement → Span
  | .blank s => s
  | .expr e => e.span
  | .assign _ nameSpan e => nameSpan.merge e.span

end Reckoner
