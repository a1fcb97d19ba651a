import Reckoner.Text.Cluster.Class

/-!
# Clusters of characters

A text is divided into the units that a reader sees as one character: a letter with its accents, a
syllable, a flag, a picture of several pictographs, a conjunct of consonants. The rules are the
Unicode ones for extended grapheme clusters. No rule looks back past the start of the cluster it
extends.
-/

set_option autoImplicit false

namespace Reckoner.Text

namespace ClusterClass

/-- A row of classes, last first, ends with an odd number of letters of flags. -/
def endsInHalfFlag : List ClusterClass → Bool
  | regional :: before => !endsInHalfFlag before
  | _ => false

/-- A row of classes, last first, ends with a pictograph and what extends it. -/
def endsInPictograph : List ClusterClass → Bool
  | pictograph :: _ => true
  | extending :: before => endsInPictograph before
  | linker :: before => endsInPictograph before
  | nonJoiner :: before => endsInPictograph before
  | _ => false

/-- A row of classes, last first, ends with a joiner behind a pictograph. -/
def endsInJoinedPictograph : List ClusterClass → Bool
  | joiner :: before => endsInPictograph before
  | _ => false

/-- A row of classes, last first, ends with a consonant and signs on it, of which one is a linker
if none was seen before. -/
def endsInConjunct (linked : Bool) : List ClusterClass → Bool
  | consonant :: _ => linked
  | linker :: before => endsInConjunct true before
  | extending :: before => endsInConjunct linked before
  | joiner :: before => endsInConjunct linked before
  | _ => false

/-- A cluster with the classes `before`, last first, goes on with a character of class `next`. -/
def continues (before : List ClusterClass) (next : ClusterClass) : Bool :=
  match before, next with
  | [], _ => false
  | carriageReturn :: _, lineFeed => true
  | last :: _, _ =>
    !(last.standsApart || next.standsApart) &&
      (next.attaches || last == prepended || last.inSyllable next ||
        (next == consonant && endsInConjunct false before) ||
        (next == pictograph && endsInJoinedPictograph before) ||
        (next == regional && endsInHalfFlag before))

end ClusterClass

/-- The clusters of some characters, behind an unfinished cluster of which the characters and the
classes are given last first. -/
def clustersAfter (chars : List Char) (classes : List ClusterClass) : List Char → List (List Char)
  | [] => [chars.reverse]
  | c :: more =>
    let next := ClusterClass.ofChar c
    if ClusterClass.continues classes next then
      clustersAfter (c :: chars) (next :: classes) more
    else
      chars.reverse :: clustersAfter [c] [next] more

/-- The clusters of some characters in their order. -/
def clusters : List Char → List (List Char)
  | [] => []
  | c :: more => clustersAfter [c] [ClusterClass.ofChar c] more

end Reckoner.Text
