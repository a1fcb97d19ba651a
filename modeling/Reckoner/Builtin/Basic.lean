/-!
# The built-in functions

The functions of the language with their names, groups, numbers of arguments and the texts that
describe them.
-/

set_option autoImplicit false

namespace Reckoner

/-- How many arguments a function takes. -/
inductive Arity where
  | exactly (n : Nat)
  | atLeast (n : Nat)
deriving DecidableEq

namespace Arity

/-- The number of arguments is right. -/
def accepts : Arity → Nat → Bool
  | .exactly n, count => count == n
  | .atLeast n, count => n ≤ count

/-- A number of arguments in words. -/
def countText (n : Nat) : String :=
  if n = 1 then toString n ++ " argument" else toString n ++ " arguments"

/-- The arity in words. -/
def describe : Arity → String
  | .exactly n => countText n
  | .atLeast n => "at least " ++ countText n

end Arity

/-- The groups that help lists functions by. -/
inductive Group where
  | math
  | text
  | list
  | conversion
deriving DecidableEq

namespace Group

/-- The name of a group. -/
def name : Group → String
  | .math => "math"
  | .text => "text"
  | .list => "list"
  | .conversion => "conversion"

/-- The groups in the order of the help. -/
def all : List Group := [.math, .text, .list, .conversion]

end Group

/-- The built-in functions. -/
inductive Builtin where
  | abs
  | min
  | max
  | sqrt
  | floor
  | ceil
  | round
  | pow
  | len
  | upper
  | lower
  | list
  | head
  | tail
  | join
  | str
  | num
  | typeOf
deriving DecidableEq

namespace Builtin

/-- The functions in the order of the help. -/
def all : List Builtin :=
  [.abs, .min, .max, .sqrt, .floor, .ceil, .round, .pow, .len, .upper, .lower, .list, .head, .tail,
   .join, .str, .num, .typeOf]

/-- The name of a function. -/
def name : Builtin → String
  | .abs => "abs"
  | .min => "min"
  | .max => "max"
  | .sqrt => "sqrt"
  | .floor => "floor"
  | .ceil => "ceil"
  | .round => "round"
  | .pow => "pow"
  | .len => "len"
  | .upper => "upper"
  | .lower => "lower"
  | .list => "list"
  | .head => "head"
  | .tail => "tail"
  | .join => "join"
  | .str => "str"
  | .num => "num"
  | .typeOf => "type_of"

/-- The function of a name. -/
def ofName? (name : String) : Option Builtin :=
  all.find? fun b => b.name == name

/-- The group of a function. -/
def group : Builtin → Group
  | .abs | .min | .max | .sqrt | .floor | .ceil | .round | .pow => .math
  | .len | .upper | .lower => .text
  | .list | .head | .tail | .join => .list
  | .str | .num | .typeOf => .conversion

/-- How many arguments a function takes. -/
def arity : Builtin → Arity
  | .min | .max | .join => .atLeast 1
  | .list => .atLeast 0
  | .pow => .exactly 2
  | _ => .exactly 1

/-- A call as the help shows it. -/
def signature : Builtin → String
  | .abs => "abs(x)"
  | .min => "min(x, ...)"
  | .max => "max(x, ...)"
  | .sqrt => "sqrt(x)"
  | .floor => "floor(x)"
  | .ceil => "ceil(x)"
  | .round => "round(x)"
  | .pow => "pow(base, exp)"
  | .len => "len(x)"
  | .upper => "upper(s)"
  | .lower => "lower(s)"
  | .list => "list(x, ...)"
  | .head => "head(xs)"
  | .tail => "tail(xs)"
  | .join => "join(xs, ...)"
  | .str => "str(x)"
  | .num => "num(x)"
  | .typeOf => "type_of(x)"

/-- What a function does, as the help says it. -/
def description : Builtin → String
  | .abs => "Absolute value"
  | .min => "Smallest of the arguments"
  | .max => "Largest of the arguments"
  | .sqrt => "Square root of a non-negative number"
  | .floor => "Round down to an int"
  | .ceil => "Round up to an int"
  | .round => "Round to the nearest int (halves away from zero)"
  | .pow => "Exponentiation; int when both are ints and exp >= 0"
  | .len => "Number of characters in a text or items in a list"
  | .upper => "Convert text to uppercase"
  | .lower => "Convert text to lowercase"
  | .list => "List of the arguments"
  | .head => "First item of a non-empty list"
  | .tail => "All items of a non-empty list except the first"
  | .join => "Concatenate lists into one"
  | .str => "Render any value as text"
  | .num => "Parse text as an int or float"
  | .typeOf => "Type name: int, float, text, bool or list"

end Builtin

end Reckoner
