import Reckoner.Span
import Reckoner.Value.Display

/-!
# Tokens

A token is a piece of a line together with what it stands for and where it was found. The end of
the line is a token too, with no text.
-/

set_option autoImplicit false

namespace Reckoner

/-- The two pairs of brackets. -/
inductive Bracket where
  | round
  | square
deriving DecidableEq

namespace Token

/-- What a token stands for. -/
inductive Kind where
  | int (n : Int64)
  | float (x : Float)
  | text (s : String)
  | bool (b : Bool)
  | name (s : String)
  | not
  | plus
  | minus
  | star
  | slash
  | percent
  | assign
  | equal
  | notEqual
  | less
  | greater
  | lessEqual
  | greaterEqual
  | opening (b : Bracket)
  | closing (b : Bracket)
  | comma
  | finish
deriving DecidableEq

namespace Kind

/-- The token ends the line. -/
def isFinish : Kind → Bool
  | .finish => true
  | _ => false

/-- A token as it is shown. -/
def display : Kind → String
  | .int n => String.ofList (Integer.chars n)
  | .float x => String.ofList (Binary64.shownWith Decimal.positional x)
  | .text s => Text.quoted s
  | .bool b => String.ofList (Truth.chars b)
  | .name s => s
  | .not => "not"
  | .plus => "+"
  | .minus => "-"
  | .star => "*"
  | .slash => "/"
  | .percent => "%"
  | .assign => "="
  | .equal => "=="
  | .notEqual => "!="
  | .less => "<"
  | .greater => ">"
  | .lessEqual => "<="
  | .greaterEqual => ">="
  | .opening .round => "("
  | .closing .round => ")"
  | .opening .square => "["
  | .closing .square => "]"
  | .comma => ","
  | .finish => "end of input"

/-- The token that a reserved word stands for. -/
def ofKeyword? : String → Option Kind
  | "true" => some (.bool true)
  | "false" => some (.bool false)
  | "not" => some .not
  | _ => none

end Kind

/-- The words that cannot be names. -/
def keywords : List String := ["true", "false", "not"]

end Token

/-- A piece of a line. -/
structure Token where
  kind : Token.Kind
  text : String
  span : Span
deriving DecidableEq

namespace Token

/-- The token that ends a line at an offset. -/
def finishAt (offset : Nat) : Token where
  kind := .finish
  text := ""
  span := Span.point offset

/-- The token as a message names it. -/
def describe (t : Token) : String :=
  if t.kind.isFinish then "end of input" else "'" ++ t.text ++ "'"

end Token

end Reckoner
