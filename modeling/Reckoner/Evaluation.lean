import Reckoner.Builtin.Call
import Reckoner.Environment
import Reckoner.Evaluation.Operator

/-!
# Evaluation

An expression is evaluated from left to right in an environment, which it cannot change. A call
looks up its function before it evaluates an argument. A statement may bind a name, and does so
only when its expression has a value.
-/

set_option autoImplicit false

namespace Reckoner

namespace Expr

mutual

/-- The value of an expression. -/
def eval (env : Environment) : Expr → Except EvalError Value
  | .literal v _ => .ok v
  | .list items _ =>
    match evalAll env items with
    | .error e => .error e
    | .ok values => .ok (.list values)
  | .name s _ =>
    match env.get? s with
    | some v => .ok v
    | none => .error (.undefinedName s)
  | .call f _ arguments _ =>
    match Builtin.ofName? f with
    | none => .error (.unknownFunction f)
    | some b =>
      match evalAll env arguments with
      | .error e => .error e
      | .ok values => b.call values
  | .binary op left right _ =>
    match eval env left with
    | .error e => .error e
    | .ok a =>
      match eval env right with
      | .error e => .error e
      | .ok b => op.apply a b
  | .unary op operand _ =>
    match eval env operand with
    | .error e => .error e
    | .ok v => op.apply v
  | .paren inner _ => eval env inner

/-- The values of several expressions, up to the first without one. -/
def evalAll (env : Environment) : List Expr → Except EvalError (List Value)
  | [] => .ok []
  | e :: more =>
    match eval env e with
    | .error err => .error err
    | .ok v =>
      match evalAll env more with
      | .error err => .error err
      | .ok values => .ok (v :: values)

end

end Expr

/-- The value of a statement, absent for a blank one, and the environment after it. -/
def Statement.eval (env : Environment) :
    Statement → Except EvalError (Option Value × Environment)
  | .blank _ => .ok (none, env)
  | .expr e =>
    match e.eval env with
    | .error err => .error err
    | .ok v => .ok (some v, env)
  | .assign name _ e =>
    match e.eval env with
    | .error err => .error err
    | .ok v => .ok (some v, env.assign name v)

end Reckoner
