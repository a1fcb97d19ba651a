import Reckoner.Evaluation.Error

/-!
# Arguments of built-in functions

A function is applied to arguments of which there are as many as its arity asks for. It asks for
arguments of the kinds it can use, and says what it got instead.
-/

set_option autoImplicit false

namespace Reckoner.Builtin

/-- Arguments in a number that the arity accepts. -/
structure Arguments (arity : Arity) where
  values : List Value
  accepted : arity.accepts values.length = true

namespace Arguments

/-- The argument of a function that takes one. -/
def only : Arguments (.exactly 1) → Value
  | ⟨[v], _⟩ => v

/-- The first argument of a function that takes two. -/
def left : Arguments (.exactly 2) → Value
  | ⟨[v, _], _⟩ => v

/-- The second argument of a function that takes two. -/
def right : Arguments (.exactly 2) → Value
  | ⟨[_, v], _⟩ => v

/-- The first argument of a function that takes one or more. -/
def first : Arguments (.atLeast 1) → Value
  | ⟨v :: _, _⟩ => v

/-- The arguments behind the first. -/
def others : Arguments (.atLeast 1) → List Value
  | ⟨_ :: more, _⟩ => more

theorem only_mem : (arguments : Arguments (.exactly 1)) → arguments.only ∈ arguments.values
  | ⟨[_], _⟩ => List.mem_cons_self

theorem first_cons_others :
    (arguments : Arguments (.atLeast 1)) → arguments.first :: arguments.others = arguments.values
  | ⟨_ :: _, _⟩ => rfl

end Arguments

/-- The fault of an argument of another kind. -/
def wrongKind (f : Builtin) (wanted : Wanted) (v : Value) : EvalError :=
  .invalidArgument f (.kind wanted v.kind)

/-- The argument as a number. -/
def numberOf (f : Builtin) (v : Value) : Except EvalError Number :=
  match v.number? with
  | some n => .ok n
  | none => .error (wrongKind f .number v)

/-- The argument as a text. -/
def textOf (f : Builtin) : Value → Except EvalError String
  | .text s => .ok s
  | v => .error (wrongKind f .text v)

/-- The argument as a list. -/
def listOf (f : Builtin) : Value → Except EvalError (List Value)
  | .list items => .ok items
  | v => .error (wrongKind f .list v)

/-- An integer, or the fault of leaving the range. -/
def checked (f : Builtin) : Option Int64 → Except EvalError Value
  | some n => .ok (.int n)
  | none => .error (.overflow (.function f))

/-- A double, unless it is not finite. -/
def finite (f : Builtin) (x : Float) : Except EvalError Value :=
  if Binary64.isNaN x then .error (.invalidArgument f .notANumber)
  else if Binary64.isFinite x then .ok (.float x)
  else .error (.overflow (.function f))

end Reckoner.Builtin
