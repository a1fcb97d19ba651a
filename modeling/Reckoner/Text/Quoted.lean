import Reckoner.Text.GraphemeExtend
import Reckoner.Text.Ignorable
import Reckoner.Text.Unprintable

/-!
# Quoted texts

A text between double quotes on one line. The quote, the backslash, and the usual control
characters take a two-character escape; a character that would not be seen by itself is written
as its code point in hexadecimal; every other character stands for itself.
-/

set_option autoImplicit false

namespace Reckoner.Text

/-- Letters that extend the one before them and fill a cell of their own: the halfwidth signs of
voiced and half-voiced sound. -/
def extendingLetter : CodePoints where
  ranges := [(0xff9e, 0xff9f)]

/-- The character is a mark on the one before it. -/
def isMark (c : Char) : Bool :=
  graphemeExtend.contains c && !extendingLetter.contains c

/-- The character can be seen by itself: it has a glyph, is not a mark on the character before it,
and is not passed over in display. -/
def isVisible (c : Char) : Bool :=
  !(isMark c || unprintable.contains c || defaultIgnorable.contains c)

/-- An escape that names the code point in lower-case hexadecimal without padding. -/
def codePointEscape (c : Char) : List Char :=
  ['\\', 'u', '\x7b'] ++ Nat.toDigits 16 c.toNat ++ ['\x7d']

/-- A character as it stands inside a quoted text. -/
def quotedChar : Char → List Char
  | '\x00' => ['\\', '0']
  | '\t' => ['\\', 't']
  | '\r' => ['\\', 'r']
  | '\n' => ['\\', 'n']
  | '\\' => ['\\', '\\']
  | '"' => ['\\', '"']
  | c => if isVisible c then [c] else codePointEscape c

/-- The characters of a quoted text, both quotes included. -/
def quotedChars (chars : List Char) : List Char :=
  '"' :: (chars.flatMap quotedChar ++ ['"'])

/-- The text in double quotes. -/
def quoted (text : String) : String :=
  String.ofList (quotedChars text.toList)

end Reckoner.Text
