import Reckoner.Builtin.Math
import Reckoner.Numeral
import Reckoner.Text.Blank
import Reckoner.Text.Case
import Reckoner.Value.Display

/-!
# Calls of built-in functions

The functions on texts and lists and between kinds, and the call of any function on a list of
arguments. A call with the wrong number of arguments is refused before any of them is looked at.
-/

set_option autoImplicit false

namespace Reckoner.Builtin

/-- A count as an integer. -/
def count (n : Nat) : Except EvalError Value :=
  checked .len (Integer.fit? n)

/-- The number of characters of a text, or of items of a list. -/
def length : Value → Except EvalError Value
  | .text s => count s.length
  | .list items => count items.length
  | v => .error (wrongKind .len .textOrList v)

/-- A text under a change of case. -/
def recased (f : Builtin) (change : String → String) (v : Value) : Except EvalError Value :=
  (textOf f v).map fun s => .text (change s)

/-- The first item of a list. -/
def firstItem (v : Value) : Except EvalError Value :=
  match listOf .head v with
  | .error e => .error e
  | .ok [] => .error (.invalidArgument .head .emptyList)
  | .ok (item :: _) => .ok item

/-- The items of a list behind the first. -/
def laterItems (v : Value) : Except EvalError Value :=
  match listOf .tail v with
  | .error e => .error e
  | .ok [] => .error (.invalidArgument .tail .emptyList)
  | .ok (_ :: items) => .ok (.list items)

/-- The items of several lists in order. -/
def allItems : List Value → Except EvalError (List Value)
  | [] => .ok []
  | v :: more =>
    match listOf .join v with
    | .error e => .error e
    | .ok items => (allItems more).map (items ++ ·)

/-- The number that a text stands for; a number stands for itself. -/
def toNumber (v : Value) : Except EvalError Value :=
  match v.number? with
  | some n => .ok n.toValue
  | none =>
    match textOf .num v with
    | .error e => .error e
    | .ok s =>
      match Numeral.number? (Text.trimChars s.toList) with
      | some n => .ok n.toValue
      | none => .error (.invalidArgument .num (.notNumeral (Text.trim s)))

/-- The result of a function on as many arguments as it takes. -/
def apply : (f : Builtin) → Arguments f.arity → Except EvalError Value
  | .abs, arguments => absoluteValue arguments.only
  | .min, arguments => extreme .min .lt arguments.first arguments.others
  | .max, arguments => extreme .max .gt arguments.first arguments.others
  | .sqrt, arguments => squareRoot arguments.only
  | .floor, arguments => whole .floor Rat.floor arguments.only
  | .ceil, arguments => whole .ceil Rat.ceil arguments.only
  | .round, arguments => whole .round Binary64.roundAway arguments.only
  | .pow, arguments => power arguments.left arguments.right
  | .len, arguments => length arguments.only
  | .upper, arguments => recased .upper Text.upper arguments.only
  | .lower, arguments => recased .lower Text.lower arguments.only
  | .list, arguments => .ok (.list arguments.values)
  | .head, arguments => firstItem arguments.only
  | .tail, arguments => laterItems arguments.only
  | .join, arguments => (allItems arguments.values).map .list
  | .str, arguments => .ok (.text arguments.only.display)
  | .num, arguments => toNumber arguments.only
  | .typeOf, arguments => .ok (.text arguments.only.kind.name)

/-- The result of a function on some arguments. Their number is checked first. -/
def call (f : Builtin) (arguments : List Value) : Except EvalError Value :=
  if h : f.arity.accepts arguments.length = true then f.apply ⟨arguments, h⟩
  else .error (.wrongArgCount f arguments.length)

end Reckoner.Builtin
