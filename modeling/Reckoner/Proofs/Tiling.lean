import Mathlib.Control.Monad.Basic
import Reckoner.Proofs.Lexing.Slice

/-!
# Tokens tile a line

A line that can be read is covered by its tokens and by the separators between them, with nothing
left out and nothing covered twice (`tokenize_tiles`). The last token, and no other, is the end of
the line. Every other token covers at least one byte, begins and ends between characters, has for
its text what it covers, and is read again, alone, from that text.

All of it is said of bytes of the line. `Lexes` speaks of the characters that are left from some
offset on; here the characters in front of them are kept as well, so that the spans can be cut out
of the whole line.
-/

set_option autoImplicit false

namespace Reckoner

namespace Token

/-! ## Bytes -/

theorem byteLength_eq_utf8ByteSize (chars : List Char) :
    byteLength chars = (String.ofList chars).utf8ByteSize := by
  induction chars with
  | nil => rfl
  | cons c chars ih =>
    rw [byteLength, ih, ← List.singleton_append, String.ofList_append, String.utf8ByteSize_append]
    rw [← String.singleton_eq_ofList, String.utf8ByteSize_singleton]

theorem byteLength_toList (s : String) : byteLength s.toList = s.utf8ByteSize := by
  rw [byteLength_eq_utf8ByteSize, String.ofList_toList]

/-- Where a line is divided between two characters, there is a place between characters. -/
theorem isValid_of_append {line : String} {front back : List Char}
    (h : line.toList = front ++ back) : String.Pos.Raw.IsValid line ⟨byteLength front⟩ := by
  rw [String.Pos.Raw.isValid_iff_exists_append]
  refine ⟨String.ofList front, String.ofList back, ?_, ?_⟩
  · rw [← String.ofList_append, ← h, String.ofList_toList]
  · rw [byteLength_eq_utf8ByteSize]
    rfl

end Token

open Token

/-- A piece of a line lies between two characters at either end. -/
theorem Span.isValid_of_slice? {s : Span} {line piece : String} (h : s.slice? line = some piece) :
    String.Pos.Raw.IsValid line ⟨s.start⟩ ∧ String.Pos.Raw.IsValid line ⟨s.stop⟩ := by
  obtain ⟨before, behind, hline, hstart, hstop⟩ := Span.slice?_eq_some_iff.1 h
  have hline' : line.toList = (before ++ piece.toList) ++ behind := by
    rw [hline, List.append_assoc]
  exact ⟨hstart ▸ isValid_of_append hline, hstop ▸ isValid_of_append hline'⟩

/-- Characters with others in front of them and behind them are cut out by their bytes. -/
theorem Span.slice?_append (before piece behind : List Char) :
    (⟨byteLength before, byteLength before + byteLength piece⟩ : Span).slice?
      (String.ofList (before ++ (piece ++ behind))) = some (String.ofList piece) :=
  Span.slice?_of_toList String.toList_ofList rfl rfl

namespace Token

/-! ## Tokens one by one -/

/-- The text of a word alone is read as the word, and then the text ends. -/
theorem Word.tokenize {word : List Char} {kind : Kind} (h : Word word kind) :
    Reckoner.tokenize (String.ofList word) =
      .ok [ofWord kind word 0, finishAt (byteLength word)] := by
  have hfinish : Lexes [] (0 + byteLength word) [finishAt (byteLength word)] := by
    have hnil := @Lexes.finish [] (byteLength word) (by simp [Blank])
    rwa [Nat.zero_add]
  have hline := Lexes.cons h kind.endsBefore_nil hfinish
  rw [List.append_nil] at hline
  rw [tokenize_eq_ok_iff, String.toList_ofList]
  exact hline

section Lexes

variable {chars : List Char} {offset : Nat} {ts : List Token}

/-- A word covers a byte. -/
theorem Word.byteLength_pos {word : List Char} {kind : Kind} (h : Word word kind) :
    0 < byteLength word := by
  obtain ⟨c, more, rfl, -⟩ := h.exists_cons
  have hc := c.utf8Size_pos
  rw [byteLength]
  omega

/-- No token begins before the one in front of it has stopped. -/
theorem Lexes.apart (h : Lexes chars offset ts) :
    ts.Pairwise fun t u => t.span.stop ≤ u.span.start := by
  induction h with
  | finish => exact List.pairwise_singleton _ _
  | token _ _ _ _ h ih =>
    refine List.Pairwise.cons ?_ ih
    intro t ht
    exact (h.le_start t ht).1

/-- The text of a token is what its span cuts out of the line. -/
theorem Lexes.slice?_span (h : Lexes chars offset ts) (before : List Char)
    (hoffset : byteLength before = offset) :
    ∀ t ∈ ts, t.span.slice? (String.ofList (before ++ chars)) = some t.text := by
  induction h generalizing before with
  | @finish blanks offset _ =>
    intro t ht
    rw [List.mem_singleton] at ht
    subst ht hoffset
    -- The end of the line covers nothing.
    have hend := Span.slice?_append (before ++ blanks) [] []
    rw [List.append_nil, List.append_nil, byteLength_append] at hend
    exact hend
  | @token blanks word rest offset start kind ts _ _ _ hstart _ ih =>
    intro t ht
    subst hoffset hstart
    rcases List.mem_cons.1 ht with rfl | ht
    · have hword := Span.slice?_append (before ++ blanks) word rest
      rw [byteLength_append, List.append_assoc] at hword
      exact hword
    · -- What the later tokens have in front of them includes this word.
      have hlater := ih (before ++ (blanks ++ word)) ?_ t ht
      · simpa only [List.append_assoc] using hlater
      · rw [byteLength_append, byteLength_append, Nat.add_assoc]

end Lexes

/-! ## The pieces between tokens -/

/-- The spans in front of the tokens: from where the token before has stopped, or from the offset,
to where the token starts. -/
def gaps (offset : Nat) : List Token → List Span
  | [] => []
  | t :: ts => ⟨offset, t.span.start⟩ :: gaps t.span.stop ts

/-- The pieces in front of the tokens are separators, and with the texts of the tokens they make up
the characters. -/
theorem Lexes.gaps {chars : List Char} {offset : Nat} {ts : List Token} (h : Lexes chars offset ts)
    (before : List Char) (hoffset : byteLength before = offset) :
    ∃ pieces : List String,
      (Token.gaps offset ts).map (fun s => s.slice? (String.ofList (before ++ chars))) =
        pieces.map some ∧
      (∀ piece ∈ pieces, Blank piece.toList) ∧
      String.join (List.zipWith (fun piece t => piece ++ t.text) pieces ts) =
        String.ofList chars := by
  induction h generalizing before with
  | @finish blanks offset hblanks =>
    subst hoffset
    refine ⟨[String.ofList blanks], ?_, ?_, ?_⟩
    · have hgap := Span.slice?_append before blanks []
      rw [List.append_nil] at hgap
      simp only [Token.gaps, List.map_cons, List.map_nil, finishAt, Span.point, hgap]
    · intro piece hpiece
      rw [List.mem_singleton] at hpiece
      rw [hpiece, String.toList_ofList]
      exact hblanks
    · simp [String.join, finishAt]
  | @token blanks word rest offset start kind ts hblanks _ _ hstart _ ih =>
    subst hoffset hstart
    obtain ⟨pieces, hslices, hpieces, hjoin⟩ := ih (before ++ (blanks ++ word)) (by
      rw [byteLength_append, byteLength_append, Nat.add_assoc])
    refine ⟨String.ofList blanks :: pieces, ?_, ?_, ?_⟩
    · have hgap := Span.slice?_append before blanks (word ++ rest)
      simp only [List.append_assoc] at hslices
      simp only [Token.gaps, List.map_cons, ofWord, hgap, hslices]
    · intro piece hpiece
      rcases List.mem_cons.1 hpiece with rfl | hpiece
      · rw [String.toList_ofList]
        exact hblanks
      · exact hpieces piece hpiece
    · rw [List.zipWith_cons_cons, String.join_cons, hjoin]
      simp only [ofWord, String.ofList_append, String.append_assoc]

end Token

/-- The tokens of a line tile it. The last of them, and no other, is the end of the line and covers
nothing behind its last byte. Every other token covers a piece of the line that has at least one
byte, lies between characters and is the text of the token, from which alone the token is read again.
The tokens stand in order and do not overlap. What is left of the line in front of them are
separators, and these pieces and the texts, in turn, are the line. -/
theorem tokenize_tiles {line : String} {ts : List Token} (h : tokenize line = .ok ts) :
    ∃ words, ts = words ++ [finishAt line.utf8ByteSize] ∧
      (∀ t ∈ words, t.kind.isFinish = false ∧ t.span.start < t.span.stop ∧
        String.Pos.Raw.IsValid line ⟨t.span.start⟩ ∧ String.Pos.Raw.IsValid line ⟨t.span.stop⟩ ∧
        t.span.slice? line = some t.text ∧
        tokenize t.text = .ok [⟨t.kind, t.text, ⟨0, t.text.utf8ByteSize⟩⟩,
          finishAt t.text.utf8ByteSize]) ∧
      (ts.Pairwise fun t u => t.span.stop ≤ u.span.start) ∧
      ∃ pieces : List String, (Token.gaps 0 ts).map (fun s => s.slice? line) = pieces.map some ∧
        (∀ piece ∈ pieces, ∀ c ∈ piece.toList, c = ' ' ∨ c = '\t' ∨ c = '\r' ∨ c = '\n') ∧
        String.join (List.zipWith (fun piece t => piece ++ t.text) pieces ts) = line := by
  have hline : Lexes line.toList 0 ts := tokenize_eq_ok_iff.1 h
  obtain ⟨words, hts, hwords⟩ := hline.exists_finish
  have hslices := hline.slice?_span [] rfl
  obtain ⟨pieces, hgaps, hblanks, hjoin⟩ := hline.gaps [] rfl
  simp only [List.nil_append, String.ofList_toList] at hslices hgaps hjoin
  refine ⟨words, ?_, ?_, hline.apart, pieces, hgaps, ?_, hjoin⟩
  · rw [hts, Nat.zero_add, byteLength_eq_utf8ByteSize, String.ofList_toList]
  · intro t ht
    have hmem : t ∈ ts := by
      rw [hts]
      exact List.mem_append_left _ ht
    obtain ⟨hword, hstop⟩ := hline.word_of_mem hmem (hwords t ht)
    have hvalid := Span.isValid_of_slice? (hslices t hmem)
    refine ⟨hwords t ht, ?_, hvalid.1, hvalid.2, hslices t hmem, ?_⟩
    · have hpos := hword.byteLength_pos
      omega
    · have halone := hword.tokenize
      rw [byteLength_eq_utf8ByteSize, String.ofList_toList] at halone
      rw [halone]
      simp only [ofWord, Nat.zero_add, byteLength_eq_utf8ByteSize, String.ofList_toList]
  · intro piece hpiece c hc
    have hblank := hblanks piece hpiece c hc
    simpa [isBlank, or_assoc] using hblank

/-- Two tokens that touch, one of them with a character of two bytes, and separators before and
behind the third. -/
def closeLine : String :=
  String.ofList ['"', 'é', '"', '<', '=', '\t', 'a', ' ']

def closeTokens : List Token :=
  [⟨.text "é", "\"é\"", ⟨0, 4⟩⟩, ⟨.lessEqual, "<=", ⟨4, 6⟩⟩, ⟨.name "a", "a", ⟨7, 8⟩⟩, finishAt 9]

theorem tokenize_tiles_closeLine :
    tokenize closeLine = .ok closeTokens ∧
    ∃ pieces : List String,
      [⟨0, 0⟩, ⟨4, 4⟩, ⟨6, 7⟩, ⟨8, 9⟩].map (fun s : Span => s.slice? closeLine) = pieces.map some ∧
      String.join (List.zipWith (fun piece t => piece ++ t.text) pieces closeTokens) =
        closeLine := by
  have htokens : tokenize closeLine = .ok closeTokens := by decide +kernel
  obtain ⟨_, -, -, -, pieces, hgaps, -, hjoin⟩ := tokenize_tiles htokens
  exact ⟨htokens, pieces, hgaps, hjoin⟩

end Reckoner
