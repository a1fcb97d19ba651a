import Mathlib.Data.List.Forall2
import Reckoner.Proofs.Reading
import Reckoner.Proofs.Tiling

/-!
# Every text has a literal

Between double quotes, a quote and a backslash are written behind a backslash, a line break and a tab
as themselves or by a letter behind a backslash, and every other character as itself. So a text can
be written in at least one way, and in several if there are line breaks or tabs in it.

However a text is written, it is read back (`process_literal`): the literal is one token that stands
for the text, and a line with nothing else in it gives the text and changes nothing.
-/

set_option autoImplicit false

namespace Reckoner

open Grammar Token

namespace Text

/-- The ways to write a character between double quotes. -/
def spellings : Char → List (List Char)
  | '"' => [['\\', '"']]
  | '\\' => [['\\', '\\']]
  | '\n' => [['\n'], ['\\', 'n']]
  | '\t' => [['\t'], ['\\', 't']]
  | c => [[c]]

/-- The line is the text between double quotes, with every character written in one of its ways. -/
def IsLiteral (s line : String) : Prop :=
  ∃ pieces, List.Forall₂ (fun c piece => piece ∈ spellings c) s.toList pieces ∧
    line.toList = '"' :: (pieces.flatten ++ ['"'])

/-- However a character is written, the lexer takes it for that character. -/
theorem quotation_spelling {c : Char} {piece written text : List Char} (h : piece ∈ spellings c)
    (hq : Quotation written text) : Quotation (piece ++ written) (c :: text) := by
  unfold spellings at h
  split at h
  · obtain rfl := List.mem_singleton.1 h
    exact .escape rfl hq
  · obtain rfl := List.mem_singleton.1 h
    exact .escape rfl hq
  · rcases List.mem_pair.1 h with rfl | rfl
    · exact .plain (by decide) (by decide) hq
    · exact .escape rfl hq
  · rcases List.mem_pair.1 h with rfl | rfl
    · exact .plain (by decide) (by decide) hq
    · exact .escape rfl hq
  · next hquote hbackslash _ _ =>
    -- Neither a quote nor a backslash, so nothing that the lexer looks out for.
    obtain rfl := List.mem_singleton.1 h
    exact .plain hquote hbackslash hq

theorem quotation_spellings {text : List Char} {pieces : List (List Char)}
    (h : List.Forall₂ (fun c piece => piece ∈ spellings c) text pieces) :
    Quotation (pieces.flatten ++ ['"']) text := by
  induction h with
  | nil => exact .close
  | @cons c piece text pieces hc _ ih =>
    rw [List.flatten_cons, List.append_assoc]
    exact quotation_spelling hc ih

/-- A literal is a word that stands for its text. -/
theorem IsLiteral.word {s line : String} (h : IsLiteral s line) : Word line.toList (.text s) := by
  obtain ⟨pieces, hpieces, hline⟩ := h
  have hword := Word.text (quotation_spellings hpieces)
  rwa [String.ofList_toList, ← hline] at hword

theorem exists_spelling (c : Char) : ∃ piece, piece ∈ spellings c := by
  unfold spellings
  split <;> exact ⟨_, List.mem_cons_self⟩

theorem exists_isLiteral (s : String) : ∃ line, IsLiteral s line := by
  have hpieces : ∀ text : List Char,
      ∃ pieces, List.Forall₂ (fun c piece => piece ∈ spellings c) text pieces := by
    intro text
    induction text with
    | nil => exact ⟨[], .nil⟩
    | cons c text ih =>
      obtain ⟨piece, hpiece⟩ := exists_spelling c
      obtain ⟨pieces, hpieces⟩ := ih
      exact ⟨piece :: pieces, .cons hpiece hpieces⟩
  obtain ⟨pieces, h⟩ := hpieces s.toList
  exact ⟨String.ofList ('"' :: (pieces.flatten ++ ['"'])), pieces, h, String.toList_ofList⟩

end Text

/-- A line that is one word for a text says the text. -/
theorem Session.read_text {s line : String} (h : Word line.toList (.text s)) :
    ∃ span, Session.read line = .ok (.expr (.literal (.text s) span)) := by
  have hlexes := tokenize_eq_ok_iff.1 h.tokenize
  rw [String.toList_ofList] at hlexes
  exact ⟨_, Session.read_eq_ok_iff.2
    ⟨[_], _, hlexes, .expr (.of_operand (.literal (.text s))), Nat.zero_le _, Nat.zero_le _⟩⟩

/-- **Texts as literals.** Every text can be written as a literal. In whatever way it is written, the
literal is one token, which stands for the text and covers all of the line; and as a line it gives
the text, in every session, and leaves the session as it is. -/
theorem process_literal (s : String) :
    (∃ line, Text.IsLiteral s line) ∧
    ∀ line, Text.IsLiteral s line →
      tokenize line = .ok [⟨.text s, line, ⟨0, line.utf8ByteSize⟩⟩, finishAt line.utf8ByteSize] ∧
      ∀ session : Session, session.process line = (.ok (some (.text s)), session) := by
  refine ⟨Text.exists_isLiteral s, ?_⟩
  intro line hline
  constructor
  · have htokens := hline.word.tokenize
    rw [String.ofList_toList, byteLength_toList] at htokens
    rw [htokens]
    simp only [ofWord, Nat.zero_add, String.ofList_toList, byteLength_toList]
  · intro session
    obtain ⟨span, hread⟩ := Session.read_text hline.word
    simp only [Session.process, hread, Statement.eval, Expr.eval]

/-- Two backslashes before a quote, a line break and a tab, each in both ways, and a character of four
bytes at the end. -/
def manifoldText : String :=
  String.ofList ['\\', '\\', '"', '\n', '\n', '\t', '\t', '😀']

def manifoldLine : String :=
  String.ofList ['"', '\\', '\\', '\\', '\\', '\\', '"', '\n', '\\', 'n', '\t', '\\', 't', '😀', '"']

theorem process_literal_manifoldText :
    Text.IsLiteral manifoldText manifoldLine ∧
    tokenize manifoldLine = .ok [⟨.text manifoldText, manifoldLine, ⟨0, 18⟩⟩, finishAt 18] ∧
    Session.initial.process manifoldLine = (.ok (some (.text manifoldText)), Session.initial) := by
  have hliteral : Text.IsLiteral manifoldText manifoldLine := by
    refine ⟨[['\\', '\\'], ['\\', '\\'], ['\\', '"'], ['\n'], ['\\', 'n'], ['\t'], ['\\', 't'],
      ['😀']], ?_, rfl⟩
    simp [manifoldText, Text.spellings]
  obtain ⟨htokens, hprocess⟩ := (process_literal manifoldText).2 manifoldLine hliteral
  exact ⟨hliteral, htokens, hprocess Session.initial⟩

end Reckoner
