import Reckoner.Binary64.Shortest
import Reckoner.Decimal.Layout
import Reckoner.Integer
import Reckoner.Text.Quoted
import Reckoner.Truth
import Reckoner.Value.Basic

/-!
# Values as they are shown

A value is shown on its own as its plain text, and inside a list with texts quoted, so that the
items of a list can be told apart. A double has the fewest digits that read back, all places
written out, and always a fraction.
-/

set_option autoImplicit false

namespace Reckoner

namespace Binary64

/-- The sign of a double as it is written. -/
def signChars (x : Float) : List Char :=
  if isNegative x then ['-'] else []

/-- A double written with the given layout of its shortest decimal. -/
def shownWith (layout : Decimal → List Char) (x : Float) : List Char :=
  if isNaN x then ['N', 'a', 'N']
  else if isFinite x then signChars x ++ layout (shortest .up x)
  else signChars x ++ ['i', 'n', 'f']

end Binary64

namespace Value

mutual

/-- A value as it is shown inside a list. -/
def itemChars : Value → List Char
  | .int n => Integer.chars n
  | .float x => Binary64.shownWith Decimal.positionalWithFraction x
  | .text s => Text.quotedChars s.toList
  | .bool b => Truth.chars b
  | .list items => '[' :: (itemsChars items ++ [']'])

/-- Items separated by a comma and a space. -/
def itemsChars : List Value → List Char
  | [] => []
  | item :: more => itemChars item ++ moreItemsChars more

/-- Further items, each after its separator. -/
def moreItemsChars : List Value → List Char
  | [] => []
  | item :: more => ',' :: ' ' :: (itemChars item ++ moreItemsChars more)

end

/-- A value as it is shown on its own. -/
def display : Value → String
  | .text s => s
  | v => String.ofList (itemChars v)

end Value

end Reckoner
