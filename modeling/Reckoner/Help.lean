import Reckoner.Builtin.Basic
import Reckoner.Environment
import Reckoner.Token.Basic

/-!
# The help text

An introduction, a table of the built-in functions by group, the constants and the reserved words.
-/

set_option autoImplicit false

namespace Reckoner.Help

/-- The version of the interpreter. -/
def version : String := "0.1.0"

/-- The introduction, line by line. -/
def introduction : List String :=
  ["Welcome to pils, a small expression language.",
   "",
   "Type one statement per line. A statement is either an expression, which is",
   "evaluated and printed, or an assignment, which stores the value under a name:",
   "",
   "    2 + 3 * 4",
   "    (2 + 3) * 4",
   "    answer = 6 * 7",
   "    greeting = \"hello\" + \" world\"",
   "    items = tail([1, 2, 3, 4])",
   "    round(pi * pow(2, 2)) < max(answer, 10)",
   "",
   "Values: ints (42), floats (3.5), text (\"hi\"), booleans (true, false) and",
   "lists ([1, \"a\", true]).",
   "",
   "Operators, from lowest to highest precedence:",
   "    ==  !=  <  >  <=  >=     comparison (does not chain)",
   "    +  -                     addition, subtraction, text/list concatenation",
   "    *  /  %                  multiplication, division, remainder",
   "    -x  not x                negation",
   "Parentheses group. `7 / 2` is 3.5; `6 / 2` is 3."]

/-- A text with blanks behind it up to a width. -/
def padded (width : Nat) (text : String) : String :=
  text ++ String.ofList (List.replicate (width - text.length) ' ')

/-- The row of a function. -/
def functionLine (b : Builtin) : String :=
  "    " ++ padded 18 b.signature ++ " " ++ b.description

/-- The rows of a group under its name. -/
def groupLines (g : Group) : List String :=
  ("  " ++ g.name) :: (Builtin.all.filter fun b => b.group = g).map functionLine

/-- All lines of the help. -/
def lines : List String :=
  introduction ++ ["", "Built-in functions:"] ++ Group.all.flatMap groupLines
    ++ ["",
        "Constants: " ++ String.intercalate ", " (Environment.constants.map fun c => c.1),
        "Reserved words: " ++ String.intercalate ", " Token.keywords]

/-- The help text. -/
def text : String :=
  String.join (lines.map fun line => line ++ "\n")

end Reckoner.Help
