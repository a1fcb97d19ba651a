import Reckoner.Proofs.Grammar.Relocation
import Reckoner.Proofs.Lexing.Line

/-!
# Slices of a line

`Span.slice?` is the text of a line between two byte offsets, which have to lie between characters.

Characters can be moved to another offset (`Lexes.back`), and a line can be cut between two words
without changing how the words on either side are read (`Lexes.cut`). So the slice from the beginning
of one word to the end of a later one lexes as the tokens from the one to the other (`Lexes.slice`),
with their spans counted from where the slice begins.
-/

set_option autoImplicit false

namespace Reckoner

namespace Token

/-- The characters up to a byte offset and those behind it, if the offset lies between two
characters or at an end. -/
def splitBytes? : List Char → Nat → Option (List Char × List Char)
  | chars, 0 => some ([], chars)
  | [], _ + 1 => none
  | c :: more, n + 1 =>
    if c.utf8Size ≤ n + 1 then
      (splitBytes? more (n + 1 - c.utf8Size)).map fun (before, behind) => (c :: before, behind)
    else
      none

/-- Characters are split at an offset exactly if so many bytes stand before it. -/
theorem splitBytes?_eq_some_iff {chars before behind : List Char} {n : Nat} :
    splitBytes? chars n = some (before, behind) ↔
      chars = before ++ behind ∧ byteLength before = n := by
  constructor
  · intro h
    fun_induction splitBytes? chars n generalizing before with
    | case1 chars =>
      obtain ⟨rfl, rfl⟩ : [] = before ∧ chars = behind := by simpa using h
      exact ⟨rfl, rfl⟩
    | case2 => simp at h
    | case3 c more n hfits ih =>
      obtain ⟨⟨before, behind⟩, hmore, heq⟩ := Option.map_eq_some_iff.1 h
      obtain ⟨rfl, rfl⟩ := Prod.mk.inj heq
      obtain ⟨rfl, hn⟩ := ih hmore
      refine ⟨rfl, ?_⟩
      rw [byteLength]
      omega
    | case4 => simp at h
  · rintro ⟨rfl, rfl⟩
    induction before with
    | nil => simp [splitBytes?, byteLength]
    | cons c before ih =>
      -- The first character takes a byte, so the offset behind it is not that of the start.
      obtain ⟨n, hn⟩ : ∃ n, byteLength (c :: before) = n + 1 := by
        have := c.utf8Size_pos
        exact ⟨byteLength (c :: before) - 1, by simp only [byteLength]; omega⟩
      have hrest : n + 1 - c.utf8Size = byteLength before := by
        rw [← hn, byteLength]
        omega
      have hfits : c.utf8Size ≤ n + 1 := by
        rw [← hn, byteLength]
        omega
      rw [hn, List.cons_append, splitBytes?, if_pos hfits, hrest, ih]
      rfl

end Token

open Token

/-- The text of a line from where the span starts to where it stops. There is none if an offset is
inside a character, or outside the line, or if the span stops before it starts. -/
def Span.slice? (s : Span) (line : String) : Option String :=
  if s.start ≤ s.stop then
    (splitBytes? line.toList s.start).bind fun (_, rest) =>
      (splitBytes? rest s.length).map fun (piece, _) => String.ofList piece
  else
    none

/-- A slice has the bytes of its span in front of where it stops. -/
theorem Span.slice?_eq_some_iff {s : Span} {line piece : String} :
    s.slice? line = some piece ↔
      ∃ before behind, line.toList = before ++ (piece.toList ++ behind) ∧
        byteLength before = s.start ∧ byteLength (before ++ piece.toList) = s.stop := by
  unfold Span.slice?
  constructor
  · intro h
    split at h
    · next hle =>
      obtain ⟨⟨before, rest⟩, hbefore, h⟩ := Option.bind_eq_some_iff.1 h
      obtain ⟨⟨chars, behind⟩, hpiece, rfl⟩ := Option.map_eq_some_iff.1 h
      obtain ⟨hline, hstart⟩ := splitBytes?_eq_some_iff.1 hbefore
      obtain ⟨rfl, hlength⟩ := splitBytes?_eq_some_iff.1 hpiece
      refine ⟨before, behind, by simpa using hline, hstart, ?_⟩
      rw [byteLength_append, String.toList_ofList, hstart, hlength, Span.length]
      omega
    · simp at h
  · rintro ⟨before, behind, hline, hstart, hstop⟩
    rw [byteLength_append] at hstop
    have hlength : byteLength piece.toList = s.length := by
      rw [Span.length]
      omega
    rw [if_pos (by omega), splitBytes?_eq_some_iff.2 ⟨hline, hstart⟩]
    simp only [Option.bind_some, splitBytes?_eq_some_iff.2 ⟨rfl, hlength⟩, Option.map_some,
      String.ofList_toList]

theorem Span.slice?_of_toList {s : Span} {line : String} {before piece behind : List Char}
    (h : line.toList = before ++ (piece ++ behind)) (hstart : byteLength before = s.start)
    (hstop : s.start + byteLength piece = s.stop) :
    s.slice? line = some (String.ofList piece) := by
  apply Span.slice?_eq_some_iff.2
  refine ⟨before, behind, ?_, hstart, ?_⟩
  · rw [String.toList_ofList, h]
  · rw [String.toList_ofList, byteLength_append, hstart, hstop]

namespace Token

section Lexes

variable {chars : List Char} {offset : Nat} {ts : List Token}

/-- The tokens of the same characters at an offset that is smaller by `n`. -/
theorem Lexes.back (h : Lexes chars offset ts) {n : Nat} (hn : n ≤ offset) :
    Lexes chars (offset - n) (ts.map (Token.mapSpan (Span.back n))) := by
  induction h with
  | @finish blanks offset hblanks =>
    have hfinish : (finishAt (offset + byteLength blanks)).mapSpan (Span.back n) =
        finishAt (offset - n + byteLength blanks) := by
      simp only [finishAt, Token.mapSpan, Span.back, Span.point]
      rw [Nat.sub_add_comm hn]
    simpa [hfinish] using Lexes.finish hblanks
  | @token blanks word rest offset start kind ts hblanks hword hend hstart _ ih =>
    have hle : n ≤ start := by omega
    have hmoved :
        (ofWord kind word start).mapSpan (Span.back n) = ofWord kind word (start - n) := by
      simp only [ofWord, Token.mapSpan, Span.back]
      rw [Nat.sub_add_comm hle]
    have hrest := ih (by omega)
    rw [Nat.sub_add_comm hle] at hrest
    rw [List.map_cons, hmoved]
    exact .token hblanks hword hend (by omega) hrest

/-- What is left of a line from one of its words on. -/
theorem Lexes.behind {pre : List Token} {t : Token} (h : Lexes chars offset (pre ++ t :: ts)) :
    ∃ before rest, chars = before ++ rest ∧ offset + byteLength before = t.span.start ∧
      Lexes rest t.span.start (t :: ts) := by
  induction pre generalizing chars offset with
  | nil =>
    cases h with
    | finish hblanks =>
      refine ⟨chars, [], by simp, rfl, ?_⟩
      exact @Lexes.finish [] _ (by simp [Blank])
    | @token blanks word rest _ start kind _ hblanks hword hend hstart h =>
      exact ⟨blanks, word ++ rest, rfl, hstart.symm, .cons hword hend h⟩
  | cons u pre ih =>
    generalize hrow : u :: pre ++ t :: ts = row at h
    cases h with
    | finish => simp at hrow
    | @token blanks word rest _ start kind _ hblanks hword hend hstart h =>
      obtain ⟨-, rfl⟩ := List.cons.inj hrow
      obtain ⟨before, rest', rfl, hbefore, hrest⟩ := ih h
      refine ⟨blanks ++ (word ++ before), rest', by simp, ?_, hrest⟩
      rw [← hbefore, hstart, byteLength_append, byteLength_append]
      omega

/-- A line cut off behind one of its words ends there. -/
theorem Lexes.cut {us : List Token} {u : Token} (h : Lexes chars offset (us ++ u :: ts))
    (hts : ts ≠ []) :
    ∃ kept cut, chars = kept ++ cut ∧ offset + byteLength kept = u.span.stop ∧
      Lexes kept offset (us ++ [u, finishAt u.span.stop]) := by
  induction us generalizing chars offset with
  | nil =>
    cases h with
    | finish => exact absurd rfl hts
    | @token blanks word rest _ start kind _ hblanks hword hend hstart h =>
      refine ⟨blanks ++ (word ++ []), rest, by simp, ?_, ?_⟩
      · simp only [List.append_nil, byteLength_append, ofWord]
        omega
      · exact .token hblanks hword kind.endsBefore_nil hstart (@Lexes.finish [] _ (by simp [Blank]))
  | cons v us ih =>
    generalize hrow : v :: us ++ u :: ts = row at h
    cases h with
    | finish => simp at hrow
    | @token blanks word rest _ start kind _ hblanks hword hend hstart h =>
      obtain ⟨rfl, rfl⟩ := List.cons.inj hrow
      obtain ⟨kept, cut, rfl, hkept, hlexes⟩ := ih h
      refine ⟨blanks ++ (word ++ kept), cut, by simp, ?_, ?_⟩
      · rw [← hkept, hstart, byteLength_append, byteLength_append]
        omega
      · exact .token hblanks hword hend.cut hstart hlexes

/-- From the beginning of a word to the end of a later one, a line has the tokens from the one to
the other. -/
theorem Lexes.slice {pre us post : List Token} {t u : Token} (ht : us.head? = some t)
    (hu : us.getLast? = some u) (hpost : post ≠ [])
    (h : Lexes chars offset (pre ++ (us ++ post))) :
    ∃ before piece behind, chars = before ++ (piece ++ behind) ∧
      offset + byteLength before = t.span.start ∧ t.span.start + byteLength piece = u.span.stop ∧
      Lexes piece t.span.start (us ++ [finishAt u.span.stop]) := by
  obtain ⟨vs, rfl⟩ := List.getLast?_eq_some_iff.1 hu
  obtain ⟨ws, hws⟩ := List.head?_eq_some_iff.1 ht
  rw [hws, List.cons_append] at h
  obtain ⟨before, rest, rfl, hbefore, hrest⟩ := Lexes.behind h
  rw [← List.cons_append, ← hws, List.append_assoc] at hrest
  obtain ⟨piece, behind, rfl, hpiece, hlexes⟩ := Lexes.cut hrest hpost
  exact ⟨before, piece, behind, rfl, hbefore, hpiece, by simpa using hlexes⟩

/-- The first token neither starts nor stops behind the second. -/
def Precedes (t u : Token) : Prop :=
  t.span.start ≤ u.span.start ∧ t.span.stop ≤ u.span.stop

theorem Lexes.le_start (h : Lexes chars offset ts) :
    ∀ t ∈ ts, offset ≤ t.span.start ∧ t.span.start ≤ t.span.stop := by
  induction h with
  | finish => simp [finishAt, Span.point]
  | @token blanks word rest offset start kind ts _ _ _ hstart _ ih =>
    intro t ht
    rcases List.mem_cons.1 ht with rfl | ht
    · simp only [ofWord]
      omega
    · have := ih t ht
      omega

/-- The tokens of a line are in order. -/
theorem Lexes.pairwise (h : Lexes chars offset ts) : ts.Pairwise Precedes := by
  induction h with
  | finish => simp
  | @token blanks word rest offset start kind ts _ _ _ _ h ih =>
    refine List.Pairwise.cons ?_ ih
    intro t ht
    have := h.le_start t ht
    simp only [Precedes, ofWord]
    omega

end Lexes

end Token

end Reckoner
