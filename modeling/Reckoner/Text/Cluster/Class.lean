import Reckoner.Text.Cluster.Conjunct
import Reckoner.Text.Cluster.Pictograph
import Reckoner.Text.Cluster.SpacingMark
import Reckoner.Text.GraphemeExtend

/-!
# Classes of characters in clusters

What a character is to its neighbours when a text is divided into the units that a reader sees as
one character. The classes refine the Unicode property `Grapheme_Cluster_Break`: the signs that
link consonants and the non-joiner are told apart from the other extending characters, and the
pictographs and consonants from the characters without a class.
-/

set_option autoImplicit false

namespace Reckoner.Text

/-- What a character is to its neighbours in a cluster. -/
inductive ClusterClass where
  | carriageReturn
  | lineFeed
  | control
  | extending
  | linker
  | nonJoiner
  | joiner
  | spacing
  | prepended
  | leading
  | vowel
  | trailing
  | openSyllable
  | closedSyllable
  | regional
  | pictograph
  | consonant
  | other
deriving DecidableEq

/-- Controls, marks of format and unassigned ignorable characters, which stay by themselves. -/
def clusterControl : CodePoints where
  ranges :=
    [(0x0, 0x9), (0xb, 0xc), (0xe, 0x1f), (0x7f, 0x9f), (0xad, 0xad), (0x61c, 0x61c),
     (0x180e, 0x180e), (0x200b, 0x200b), (0x200e, 0x200f), (0x2028, 0x202e), (0x2060, 0x206f),
     (0xfeff, 0xfeff), (0xfff0, 0xfffb), (0x13430, 0x1343f), (0x1bca0, 0x1bca3),
     (0x1d173, 0x1d17a), (0xe0000, 0xe001f), (0xe0080, 0xe00ff), (0xe01f0, 0xe0fff)]

/-- Signs that belong to the character after them. -/
def prependedSign : CodePoints where
  ranges :=
    [(0x600, 0x605), (0x6dd, 0x6dd), (0x70f, 0x70f), (0x890, 0x891), (0x8e2, 0x8e2),
     (0xd4e, 0xd4e), (0x110bd, 0x110bd), (0x110cd, 0x110cd), (0x111c2, 0x111c3),
     (0x113d1, 0x113d1), (0x1193f, 0x1193f), (0x11941, 0x11941), (0x11a84, 0x11a89),
     (0x11d46, 0x11d46), (0x11f02, 0x11f02)]

/-- Consonants that begin a syllable written letter by letter. -/
def leadingConsonant : CodePoints where
  ranges := [(0x1100, 0x115f), (0xa960, 0xa97c)]

/-- Vowels of a syllable written letter by letter. -/
def syllableVowel : CodePoints where
  ranges := [(0x1160, 0x11a7), (0xd7b0, 0xd7c6), (0x16d63, 0x16d63), (0x16d67, 0x16d6a)]

/-- Consonants that close a syllable written letter by letter. -/
def trailingConsonant : CodePoints where
  ranges := [(0x11a8, 0x11ff), (0xd7cb, 0xd7fb)]

/-- Syllables written as one character. -/
def wholeSyllable : CodePoints where
  ranges := [(0xac00, 0xd7a3)]

/-- Letters that make a flag in pairs. -/
def regionalIndicator : CodePoints where
  ranges := [(0x1f1e6, 0x1f1ff)]

/-- Tones of skin, which go with the pictograph before them. -/
def skinTone : CodePoints where
  ranges := [(0x1f3fb, 0x1f3ff)]

namespace ClusterClass

/-- The class of a syllable written as one character: each row of 28 opens with the syllable that
has no closing consonant. -/
def ofSyllable (c : Char) : ClusterClass :=
  if (c.toNat - 0xac00) % 28 = 0 then .openSyllable else .closedSyllable

/-- The class of a character. -/
def ofChar (c : Char) : ClusterClass :=
  if c = '\r' then .carriageReturn
  else if c = '\n' then .lineFeed
  else if clusterControl.contains c then .control
  else if c = '\u200c' then .nonJoiner
  else if c = '\u200d' then .joiner
  else if conjunctLinker.contains c then .linker
  else if graphemeExtend.contains c || skinTone.contains c then .extending
  else if spacingMark.contains c then .spacing
  else if prependedSign.contains c then .prepended
  else if leadingConsonant.contains c then .leading
  else if syllableVowel.contains c then .vowel
  else if trailingConsonant.contains c then .trailing
  else if wholeSyllable.contains c then ofSyllable c
  else if regionalIndicator.contains c then .regional
  else if Text.pictograph.contains c then .pictograph
  else if conjunctConsonant.contains c then .consonant
  else .other

/-- The character is a cluster of its own whatever stands beside it, but for the two characters of
a line end. -/
def standsApart : ClusterClass → Bool
  | carriageReturn => true
  | lineFeed => true
  | control => true
  | _ => false

/-- The character belongs to the one before it. -/
def attaches : ClusterClass → Bool
  | extending => true
  | linker => true
  | nonJoiner => true
  | joiner => true
  | spacing => true
  | _ => false

/-- The two characters follow each other inside a syllable. -/
def inSyllable : ClusterClass → ClusterClass → Bool
  | leading, leading => true
  | leading, vowel => true
  | leading, openSyllable => true
  | leading, closedSyllable => true
  | vowel, vowel => true
  | vowel, trailing => true
  | openSyllable, vowel => true
  | openSyllable, trailing => true
  | trailing, trailing => true
  | closedSyllable, trailing => true
  | _, _ => false

end ClusterClass

end Reckoner.Text
