import Reckoner.Text.Case.Context
import Reckoner.Text.Case.Lower
import Reckoner.Text.Case.Upper

/-!
# Texts in capitals and in small letters

Both directions follow the full Unicode mappings, so the result may have more characters than the
text had. Lowering is by letter except for the capital sigma, whose small form at the end of a
word differs from the one inside it.
-/

set_option autoImplicit false

namespace Reckoner.Text

/-- The capital of a letter. -/
def upperChar (c : Char) : List Char :=
  mapLetter upperRuns upperSequences c

/-- The small form of a letter that stands by itself. -/
def lowerChar (c : Char) : List Char :=
  mapLetter lowerRuns lowerSequences c

/-- After characters that do not count, the next one is a letter with a case. -/
def leadsToCased (chars : List Char) : Bool :=
  match chars.dropWhile caseIgnorable.contains with
  | [] => false
  | c :: _ => cased.contains c

/-- The small form of a capital sigma between the characters `before`, nearest first, and
`after`: final exactly when a letter comes before it and none after it. -/
def lowerSigma (before after : List Char) : Char :=
  if leadsToCased before && !leadsToCased after then 'ς' else 'σ'

/-- Small forms of the characters after `before`, which is given nearest first. -/
def lowerAfter (before : List Char) : List Char → List Char
  | [] => []
  | 'Σ' :: after => lowerSigma before after :: lowerAfter ('Σ' :: before) after
  | c :: after => lowerChar c ++ lowerAfter (c :: before) after

/-- The text in capitals. -/
def upper (text : String) : String :=
  String.ofList (text.toList.flatMap upperChar)

/-- The text in small letters. -/
def lower (text : String) : String :=
  String.ofList (lowerAfter [] text.toList)

end Reckoner.Text
