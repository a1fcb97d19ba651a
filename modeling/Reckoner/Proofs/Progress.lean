import Mathlib.Data.Nat.Init
import Reckoner.Proofs.Tiling

/-!
# The lexer never stands still

A lexer can be asked for the next token again and again, behind a fault as well as behind a token.
Every call takes characters off the front of what is left (`next_takes`). A call that does not find
the end of the line takes at least one; a call that finds it takes all that is left, and from then on
there is nothing else to find (`next_progress`).

What a call does is said once, of one call. What holds after any number of calls follows by
induction: the lexer stands between two characters of the line, it has given at most one token or
fault for each character, and it stays at the end once it is there (`calls_progress`).
-/

set_option autoImplicit false

namespace Reckoner

open Token

namespace Lexer

/-! ## One call -/

/-- The second lexer has `taken` behind it, which the first still had before it. -/
structure Takes (l : Lexer) (taken : List Char) (l' : Lexer) : Prop where
  rest : l.rest = taken ++ l'.rest
  offset : l'.offset = l.offset + byteLength taken

theorem Takes.refl (l : Lexer) : Takes l [] l where
  rest := rfl
  offset := rfl

theorem Takes.trans {l m r : Lexer} {us vs : List Char} (h : Takes l us m) (h' : Takes m vs r) :
    Takes l (us ++ vs) r where
  rest := by rw [h.rest, h'.rest, List.append_assoc]
  offset := by rw [h'.offset, h.offset, byteLength_append, Nat.add_assoc]

theorem takes_drop (l : Lexer) (n : Nat) : Takes l (l.rest.take n) (l.drop n) where
  rest := (List.take_append_drop n l.rest).symm
  offset := rfl

/-- The result is the end of the line. -/
def isEnd : Except LexError Token → Bool
  | .ok t => t.kind.isFinish
  | .error _ => false

/-- No reading is the end of the line. -/
theorem isEnd_locate (l : Lexer) (c : Char) (more : List Char) :
    isEnd (l.locate (read c more)) = false := by
  cases hread : read c more with
  | token kind n =>
    obtain ⟨word, rest, -, -, hword, -⟩ := read_eq_token_iff.1 hread
    exact hword.isFinish
  | fault cause skip n => rfl

/-- A call takes a character and finds a token or a fault, or it takes all that is left and finds the
end of the line. -/
theorem next_progress (l : Lexer) :
    (isEnd l.next.1 = false ∧ ∃ c taken, Takes l (c :: taken) l.next.2) ∨
      l.next = (.ok (finishAt (l.offset + byteLength l.rest)),
        ⟨[], l.offset + byteLength l.rest⟩) := by
  obtain ⟨chars, offset⟩ := l
  obtain ⟨blanks, rest, rfl, hblanks, hrest⟩ := exists_run isBlank chars
  cases rest with
  | nil =>
    right
    rw [List.append_nil]
    exact next_finish hblanks
  | cons c more =>
    left
    rw [next_read hblanks (hrest c rfl)]
    refine ⟨isEnd_locate _ c more, ?_⟩
    -- Behind the separators at least the first character is taken.
    obtain ⟨n, hn⟩ : ∃ n, (read c more).length = n + 1 :=
      Nat.exists_eq_succ_of_ne_zero (Nat.pos_iff_ne_zero.1 (read_length_pos c more))
    have hskip : Takes ⟨blanks ++ c :: more, offset⟩ blanks
        ⟨c :: more, offset + byteLength blanks⟩ := ⟨rfl, rfl⟩
    have htakes := hskip.trans (takes_drop _ (read c more).length)
    rw [hn, List.take_succ_cons] at htakes
    rw [hn]
    cases blanks with
    | nil => exact ⟨c, _, htakes⟩
    | cons d blanks => exact ⟨d, _, htakes⟩

theorem next_takes (l : Lexer) : ∃ taken, Takes l taken l.next.2 := by
  rcases next_progress l with ⟨-, c, taken, htakes⟩ | hend
  · exact ⟨c :: taken, htakes⟩
  · refine ⟨l.rest, ?_, ?_⟩
    · rw [hend, List.append_nil]
    · rw [hend]

/-- The end of the line is found again. -/
theorem next_of_isEnd {l : Lexer} (h : isEnd l.next.1 = true) : l.next.2.next = l.next := by
  rcases next_progress l with ⟨hno, -⟩ | hend
  · rw [hno] at h
    exact absurd h Bool.false_ne_true
  · rw [hend]
    exact @next_finish [] _ (by simp [Blank])

/-! ## Many calls -/

/-- The lexer after so many calls. -/
def after (l : Lexer) : Nat → Lexer
  | 0 => l
  | n + 1 => (l.after n).next.2

/-- The results of so many calls, in their order. -/
def results (l : Lexer) (n : Nat) : List (Except LexError Token) :=
  (List.range n).map fun i => (l.after i).next.1

theorem after_next (l : Lexer) (n : Nat) : l.next.2.after n = l.after (n + 1) := by
  induction n with
  | zero => rfl
  | succ n ih =>
    rw [after, ih]
    rfl

theorem results_succ (l : Lexer) (n : Nat) :
    l.results (n + 1) = l.results n ++ [(l.after n).next.1] := by
  rw [results, List.range_succ, List.map_append]
  rfl

theorem results_next (l : Lexer) (n : Nat) :
    l.results (n + 1) = l.next.1 :: l.next.2.results n := by
  rw [results, List.range_succ_eq_map, List.map_cons, List.map_map]
  congr 1
  apply List.map_congr_left
  intro i _
  rw [after_next]
  rfl

/-- Whatever has been found, the lexer has come a part of the way. -/
theorem after_takes (l : Lexer) (n : Nat) : ∃ taken, Takes l taken (l.after n) := by
  induction n with
  | zero => exact ⟨[], .refl l⟩
  | succ n ih =>
    obtain ⟨before, hbefore⟩ := ih
    obtain ⟨taken, htaken⟩ := next_takes (l.after n)
    exact ⟨before ++ taken, hbefore.trans htaken⟩

/-- Every result but the end of the line has cost a character. -/
theorem countP_results (l : Lexer) (n : Nat) :
    (l.results n).countP (fun r => !isEnd r) + (l.after n).rest.length ≤ l.rest.length := by
  induction n with
  | zero => exact Nat.le_of_eq (Nat.zero_add _)
  | succ n ih =>
    rw [results_succ, List.countP_append, List.countP_singleton, after]
    rcases next_progress (l.after n) with ⟨hno, c, taken, htakes⟩ | hend
    · have hlength : (l.after n).rest.length =
          taken.length + 1 + (l.after n).next.2.rest.length := by
        rw [htakes.rest, List.length_append, List.length_cons]
      rw [hno, if_pos (by decide)]
      omega
    · have hresult : isEnd (l.after n).next.1 = true := by
        rw [hend]
        rfl
      rw [hresult, if_neg (by decide), hend]
      exact Nat.le_trans (Nat.add_le_add_left (Nat.zero_le _) _) ih

/-- Once the end of the line has been found, every later call finds it. -/
theorem next_after_of_isEnd {l : Lexer} {m n : Nat} (h : isEnd (l.after m).next.1 = true)
    (hmn : m ≤ n) : (l.after n).next = (l.after m).next := by
  induction n, hmn using Nat.le_induction with
  | base => rfl
  | succ n _ ih =>
    have hend : isEnd (l.after n).next.1 = true := by
      rw [ih]
      exact h
    rw [after, next_of_isEnd hend, ih]

/-- A lexer that has come a part of the way along a line stands between two of its characters. -/
theorem Takes.isValid {line : String} {taken : List Char} {l : Lexer}
    (h : Takes (ofLine line) taken l) :
    String.Pos.Raw.IsValid line ⟨l.offset⟩ ∧ l.offset + byteLength l.rest = line.utf8ByteSize := by
  have hoffset : l.offset = byteLength taken := by
    rw [h.offset]
    exact Nat.zero_add _
  have hrest : line.toList = taken ++ l.rest := h.rest
  refine ⟨hoffset ▸ isValid_of_append hrest, ?_⟩
  rw [hoffset, ← byteLength_append, ← hrest, byteLength_toList]

end Lexer

/-- **Progress.** However often a lexer has been called on a line, it stands between two characters
of the line or at one of its ends. The next call takes it further and does not give the end of the
line, or gives the end of the line, behind its last byte, and leaves the lexer there. So no more
results than the line has characters are something else than its end, and behind the first end all
results are this end. -/
theorem calls_progress (line : String) :
    (∀ n l, l = (Lexer.ofLine line).after n →
      String.Pos.Raw.IsValid line ⟨l.offset⟩ ∧ l.offset ≤ line.utf8ByteSize ∧
      ((l.offset < l.next.2.offset ∧ Lexer.isEnd l.next.1 = false) ∨
        (l.next.1 = .ok (finishAt line.utf8ByteSize) ∧
          l.next.2.offset = line.utf8ByteSize))) ∧
    (∀ n, ((Lexer.ofLine line).results n).countP (fun r => !Lexer.isEnd r) ≤ line.length) ∧
    ∀ m n, m ≤ n → Lexer.isEnd ((Lexer.ofLine line).after m).next.1 = true →
      ((Lexer.ofLine line).after n).next.1 = ((Lexer.ofLine line).after m).next.1 := by
  refine ⟨?_, ?_, ?_⟩
  · intro n l hl
    obtain ⟨before, hbefore⟩ := (Lexer.ofLine line).after_takes n
    rw [← hl] at hbefore
    obtain ⟨hvalid, hsize⟩ := hbefore.isValid
    refine ⟨hvalid, hsize ▸ Nat.le_add_right _ _, ?_⟩
    rcases l.next_progress with ⟨hno, c, taken, htakes⟩ | hend
    · refine Or.inl ⟨?_, hno⟩
      have hc := c.utf8Size_pos
      rw [htakes.offset, byteLength]
      omega
    · refine Or.inr ?_
      rw [hend, hsize]
      exact ⟨rfl, rfl⟩
  · intro n
    exact Nat.le_trans (Nat.le_add_right _ _) ((Lexer.ofLine line).countP_results n)
  · intro m n hmn hend
    rw [Lexer.next_after_of_isEnd hend hmn]

/-- A text with an escape that stands for nothing, written with a character of two bytes. -/
def brokenText : String :=
  String.ofList ['"', 'a', '\\', 'é', 'b', '"', ' ']

/-- Behind the escape the lexer goes on with a name, a text without its closing quote, and the end. -/
theorem calls_progress_brokenText :
    (Lexer.ofLine brokenText).results 3 =
      [.error ⟨.invalidEscape 'é', ⟨2, 5⟩⟩, .ok ⟨.name "b", "b", ⟨5, 6⟩⟩,
        .error ⟨.unterminatedText, ⟨6, 8⟩⟩] ∧
    Lexer.isEnd ((Lexer.ofLine brokenText).after 3).next.1 = true ∧
    ∀ n, 3 ≤ n → ((Lexer.ofLine brokenText).after n).next.1 = .ok (finishAt 8) := by
  have hend : ((Lexer.ofLine brokenText).after 3).next.1 = .ok (finishAt 8) := by
    decide +kernel
  refine ⟨by decide +kernel, by rw [hend]; rfl, ?_⟩
  intro n hn
  rw [(calls_progress brokenText).2.2 3 n hn (by rw [hend]; rfl), hend]

end Reckoner
