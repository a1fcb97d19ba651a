import Reckoner.Binary64.Shortest
import Reckoner.Decimal.Layout
import Reckoner.Integer
import Reckoner.Truth

/-!
# JSON texts

A JSON tree whose objects keep the order of their members, and its written forms. A formatter says
how strings and doubles are written and which blanks stand between the parts of a text. There are
two: compact, without any blank, and pretty, with two blanks of indentation for each level. Integers
and doubles are written apart: a double always has a fraction or an exponent.
-/

set_option autoImplicit false

namespace Reckoner

/-- A JSON text as a tree. -/
inductive Json where
  | null
  | bool (b : Bool)
  | int (n : Int64)
  | float (x : Float)
  | string (s : String)
  | array (items : List Json)
  | object (members : List (String × Json))

namespace Json

/-- A control character as four hexadecimal digits. -/
def controlEscape (c : Char) : List Char :=
  let digits := Nat.toDigits 16 c.toNat
  ['\\', 'u'] ++ List.replicate (4 - digits.length) '0' ++ digits

/-- A character inside a JSON string. -/
def stringChar : Char → List Char
  | '"' => ['\\', '"']
  | '\\' => ['\\', '\\']
  | '\x08' => ['\\', 'b']
  | '\x0c' => ['\\', 'f']
  | '\n' => ['\\', 'n']
  | '\r' => ['\\', 'r']
  | '\t' => ['\\', 't']
  | c => if c.toNat < 0x20 then controlEscape c else [c]

/-- A JSON string with its quotes. -/
def stringChars (s : String) : List Char :=
  '"' :: (s.toList.flatMap stringChar ++ ['"'])

/-- Decimals with a first digit from the fifth place after the point to the sixteenth before it
are written out; all others take an exponent. -/
def decimalChars (d : Decimal) : List Char :=
  if -5 ≤ d.leading ∧ d.leading ≤ 15 then d.positionalWithFraction else d.scientific

/-- A double in its shortest form; of two equally near decimals the even one. What is not finite
has no JSON number. -/
def floatChars (x : Float) : List Char :=
  if Binary64.isFinite x then
    let digits := decimalChars (Binary64.shortest .even x)
    if Binary64.isNegative x then '-' :: digits else digits
  else ['n', 'u', 'l', 'l']

/-- How the parts of a text are written. -/
structure Formatter where
  /-- What stands before an item inside so many containers, and behind the last. -/
  lineBreak : Nat → List Char
  /-- What stands between the colon behind a name and the item of that name. -/
  afterColon : List Char
  string : String → List Char := stringChars
  float : Float → List Char := floatChars

namespace Formatter

mutual

/-- The characters of a tree inside `level` containers. -/
def chars (f : Formatter) (level : Nat) : Json → List Char
  | .null => ['n', 'u', 'l', 'l']
  | .bool b => Truth.chars b
  | .int n => Integer.chars n
  | .float x => f.float x
  | .string s => f.string s
  | .array [] => ['[', ']']
  | .array (item :: more) =>
    '[' :: (f.lineBreak (level + 1) ++ f.chars (level + 1) item ++ f.itemChars (level + 1) more
      ++ f.lineBreak level ++ [']'])
  | .object [] => ['\x7b', '\x7d']
  | .object ((name, item) :: more) =>
    '\x7b' :: (f.lineBreak (level + 1) ++ f.string name ++ [':'] ++ f.afterColon
      ++ f.chars (level + 1) item ++ f.memberChars (level + 1) more
      ++ f.lineBreak level ++ ['\x7d'])

/-- Further items, each after a comma. -/
def itemChars (f : Formatter) (level : Nat) : List Json → List Char
  | [] => []
  | item :: more => ',' :: (f.lineBreak level ++ f.chars level item ++ f.itemChars level more)

/-- Further members, each after a comma. -/
def memberChars (f : Formatter) (level : Nat) : List (String × Json) → List Char
  | [] => []
  | (name, item) :: more =>
    ',' :: (f.lineBreak level ++ f.string name ++ [':'] ++ f.afterColon ++ f.chars level item
      ++ f.memberChars level more)

end

/-- The text of a tree. -/
def text (f : Formatter) (json : Json) : String :=
  String.ofList (f.chars 0 json)

/-- No blanks. -/
def compact : Formatter where
  lineBreak _ := []
  afterColon := []

/-- One item per line, with two blanks for each level. -/
def pretty : Formatter where
  lineBreak level := '\n' :: List.replicate (2 * level) ' '
  afterColon := [' ']

end Formatter

/-- The text without blanks. -/
def compact (json : Json) : String :=
  Formatter.compact.text json

/-- The text with one item per line. -/
def pretty (json : Json) : String :=
  Formatter.pretty.text json

end Json

end Reckoner
