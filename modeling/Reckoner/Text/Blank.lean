import Reckoner.Text.CodePoints

/-!
# White space

The Unicode property `White_Space`, and texts without it at either end.
-/

set_option autoImplicit false

namespace Reckoner.Text

/-- The 25 characters of white space. -/
def whiteSpace : CodePoints where
  ranges :=
    [(0x9, 0xd), (0x20, 0x20), (0x85, 0x85), (0xa0, 0xa0), (0x1680, 0x1680), (0x2000, 0x200a),
     (0x2028, 0x2029), (0x202f, 0x202f), (0x205f, 0x205f), (0x3000, 0x3000)]

/-- The characters left when white space is taken off both ends. -/
def trimChars (chars : List Char) : List Char :=
  ((chars.dropWhile whiteSpace.contains).reverse.dropWhile whiteSpace.contains).reverse

/-- The text without white space at either end. -/
def trim (text : String) : String :=
  String.ofList (trimChars text.toList)

end Reckoner.Text
