/-!
# Lines of a text

A line ends at a line feed, and a carriage return right before the feed belongs to the end as
well. A text that stops without a feed has one more line, unless nothing is left for it.
-/

set_option autoImplicit false

namespace Reckoner.Text

/-- The lines of a row of characters, without their ends. -/
def lineChars : List Char → List (List Char)
  | [] => []
  | '\n' :: more => [] :: lineChars more
  | '\r' :: '\n' :: more => [] :: lineChars more
  | c :: more =>
    match lineChars more with
    | [] => [[c]]
    | line :: later => (c :: line) :: later

/-- The lines of a text, without their ends. -/
def lines (text : String) : List String :=
  (lineChars text.toList).map String.ofList

end Reckoner.Text
