import Reckoner.Proofs.Lexing.Fault
import Reckoner.Proofs.Progress

/-!
# The first fault of a line

A line without tokens has a first fault. The calls of the lexer before it give tokens, and the next
call gives the fault (`exists_scans`). The tokens do not depend on what follows them: a line that is
cut off anywhere behind them has them as its first tokens (`Scans.cut`).

So the place of a fault can be checked from the outside (`tokenize_error_place`). A line cut off where
its fault begins has the tokens before the fault and no others. An escape that stands for nothing is
the one fault inside a word: a line cut off before its backslash ends in the middle of a text, and the
fault of that line is the text, from its opening quote on.
-/

set_option autoImplicit false

namespace Reckoner

open Token

namespace Lexer

/-! ## Tokens one after the other -/

/-- The calls that lead from one lexer to another give these tokens, none of which is the end of the
line. -/
inductive Scans : Lexer → List Token → Lexer → Prop
  | nil (l : Lexer) : Scans l [] l
  | cons {l m r : Lexer} {t : Token} {ts : List Token} :
      l.next = (.ok t, m) → t.kind.isFinish = false → Scans m ts r → Scans l (t :: ts) r

section Scans

variable {l r : Lexer} {ts : List Token}

theorem Scans.after_eq (h : Scans l ts r) : l.after ts.length = r := by
  induction h with
  | nil => rfl
  | @cons l m r t ts hnext _ _ ih =>
    have hm : l.next.2 = m := by rw [hnext]
    rw [List.length_cons, ← after_next, hm, ih]

theorem Scans.results_eq (h : Scans l ts r) : l.results ts.length = ts.map .ok := by
  induction h with
  | nil => rfl
  | @cons l m r t ts hnext _ _ ih =>
    rw [List.length_cons, results_next, hnext, ih]
    rfl

theorem Scans.takes (h : Scans l ts r) : ∃ taken, Takes l taken r := by
  rw [← h.after_eq]
  exact l.after_takes ts.length

/-- The tokens stand before those that are still to come, and before the fault that may come. -/
theorem Scans.tokens_eq (h : Scans l ts r) : l.tokens = r.tokens.map (ts ++ ·) := by
  induction h with
  | nil l => cases l.tokens <;> rfl
  | @cons l m r t ts hnext ht _ ih =>
    rw [tokens_of_token hnext ht, ih]
    cases r.tokens <;> rfl

/-- Calls that do not give the tokens of a line come to a fault. -/
theorem exists_scans {l : Lexer} {e : LexError} (h : l.tokens = .error e) :
    ∃ ts r, Scans l ts r ∧ r.next.1 = .error e := by
  -- The recursion of `tokens`: every token leaves fewer characters.
  induction hn : l.rest.length using Nat.strongRecOn generalizing l with
  | ind n ih =>
    subst hn
    cases hnext : l.next with
    | mk result m =>
      cases result with
      | error e' =>
        rw [tokens_of_fault hnext] at h
        obtain rfl := Except.error.inj h
        exact ⟨[], l, .nil l, by rw [hnext]⟩
      | ok t =>
        cases ht : t.kind.isFinish with
        | true =>
          rw [tokens_of_finish hnext ht] at h
          cases h
        | false =>
          rw [tokens_of_token hnext ht] at h
          cases hlater : m.tokens with
          | ok later =>
            rw [hlater] at h
            cases h
          | error e' =>
            rw [hlater] at h
            obtain rfl := Except.error.inj h
            obtain ⟨ts, r, hscans, hfault⟩ :=
              ih m.rest.length (next_rest_length hnext ht) hlater rfl
            exact ⟨t :: ts, r, .cons hnext ht hscans, hfault⟩

/-- A token does not depend on what is cut off behind it. -/
theorem next_cut {l m : Lexer} {t : Token} (h : l.next = (.ok t, m))
    (ht : t.kind.isFinish = false) {rest cut : List Char} (hm : m.rest = rest ++ cut) :
    ∃ kept, l.rest = kept ++ cut ∧ next ⟨kept, l.offset⟩ = (.ok t, ⟨rest, m.offset⟩) := by
  obtain ⟨chars, offset⟩ := l
  rcases next_cases ⟨chars, offset⟩ with ⟨blanks, hblanks, hl⟩ |
    ⟨blanks, word, behind, kind, hblanks, hword, hend, hl⟩ | ⟨e, l', hfault⟩
  · rw [hl, next_finish hblanks, Prod.mk.injEq, Except.ok.injEq] at h
    rw [← h.1] at ht
    cases ht
  · obtain rfl : chars = blanks ++ (word ++ behind) := congrArg Lexer.rest hl
    rw [next_token hblanks hword hend, Prod.mk.injEq, Except.ok.injEq] at h
    obtain ⟨rfl, rfl⟩ := h
    obtain rfl : behind = rest ++ cut := hm
    exact ⟨blanks ++ (word ++ rest), by simp, next_token hblanks hword hend.cut⟩
  · rw [hfault] at h
    cases h

/-- Tokens do not depend on what is cut off behind them. -/
theorem Scans.cut (h : Scans l ts r) {rest cut : List Char} (hr : r.rest = rest ++ cut) :
    ∃ kept, l.rest = kept ++ cut ∧ Scans ⟨kept, l.offset⟩ ts ⟨rest, r.offset⟩ := by
  induction h with
  | nil l => exact ⟨rest, hr, .nil _⟩
  | @cons l m r t ts hnext ht _ ih =>
    obtain ⟨kept, hm, hscans⟩ := ih hr
    obtain ⟨kept', hl, hnext'⟩ := next_cut hnext ht hm
    exact ⟨kept', hl, .cons hnext' ht hscans⟩

end Scans

/-- The tokens of a line cut off before a fault: those before it, and then what becomes of the
characters that were passed since the last of them. -/
theorem tokens_before {line : String} {r : Lexer} {ts : List Token} (h : Scans (ofLine line) ts r)
    {rest cut : List Char} (hr : r.rest = rest ++ cut) :
    ∃ kept, line.toList = kept ++ cut ∧ byteLength kept = r.offset + byteLength rest ∧
      tokenize (String.ofList kept) = (tokens ⟨rest, r.offset⟩).map (ts ++ ·) := by
  obtain ⟨kept, hline, hscans⟩ := h.cut hr
  obtain ⟨taken, htakes⟩ := hscans.takes
  refine ⟨kept, hline, ?_, ?_⟩
  · have hkept : kept = taken ++ rest := htakes.rest
    have hoffset : r.offset = 0 + byteLength taken := htakes.offset
    rw [hkept, byteLength_append, hoffset, Nat.zero_add]
  · rw [tokenize, ofLine, String.toList_ofList]
    exact hscans.tokens_eq

end Lexer

/-- A fault blames a piece of its line. -/
theorem exists_blamed {line : String} {e : LexError} (h : tokenize line = .error e) :
    ∃ before front blamed behind, line.toList = before ++ (blamed ++ behind) ∧
      byteLength before = e.span.start ∧ e.span.start + byteLength blamed = e.span.stop ∧
      Fault front blamed e.cause := by
  obtain ⟨scanned, r, hscans, hnext⟩ := Lexer.exists_scans h
  obtain ⟨blanks, front, blamed, behind, -, hrest, -, hfault, hstart, hstop⟩ :=
    Lexer.fault_of_next hnext
  rw [← List.append_assoc] at hrest
  obtain ⟨before, hline, hbefore, -⟩ := Lexer.tokens_before hscans hrest
  exact ⟨before, front, blamed, behind, hline, by rw [hbefore, hstart], hstop.symm, hfault⟩

/-- **The place of a fault.** The span of a fault lies in the line, between characters. Cut off where
the fault begins, the line has the tokens that were read before the fault, and then its end. If the
fault is an escape that stands for nothing, there is a backslash in its place, and the line cut off
before it has a fault of its own: a text without an end, from the quote on where the text began that
the escape stands in. -/
theorem tokenize_error_place {line : String} {e : LexError} (h : tokenize line = .error e) :
    (e.span.start ≤ e.span.stop ∧ e.span.stop ≤ line.utf8ByteSize ∧
      String.Pos.Raw.IsValid line ⟨e.span.start⟩ ∧ String.Pos.Raw.IsValid line ⟨e.span.stop⟩) ∧
    ∃ scanned : List Token,
      (Lexer.ofLine line).results (scanned.length + 1) = scanned.map .ok ++ [.error e] ∧
      ∃ before, (⟨0, e.span.start⟩ : Span).slice? line = some before ∧
        ((∀ c, e.cause ≠ .invalidEscape c) →
          tokenize before = .ok (scanned ++ [finishAt e.span.start])) ∧
        ∀ c, e.cause = .invalidEscape c →
          (⟨e.span.start, e.span.start + 1⟩ : Span).slice? line = some "\\" ∧
          ∃ quote, quote = ((Lexer.ofLine line).after scanned.length).skipBlanks.offset ∧
            (⟨quote, quote + 1⟩ : Span).slice? line = some "\"" ∧
            tokenize before = .error ⟨.unterminatedText, ⟨quote, e.span.start⟩⟩ := by
  obtain ⟨scanned, r, hscans, hnext⟩ := Lexer.exists_scans h
  obtain ⟨blanks, front, blamed, behind, hblanks, hrest, hskip, hfault, hstart, hstop⟩ :=
    Lexer.fault_of_next hnext
  have hcut : r.rest = (blanks ++ front) ++ (blamed ++ behind) := by rw [hrest, List.append_assoc]
  obtain ⟨before, hline, hbefore, htokens⟩ := Lexer.tokens_before hscans hcut
  rw [← hstart] at hbefore
  have hresults : (Lexer.ofLine line).results (scanned.length + 1) =
      scanned.map .ok ++ [.error e] := by
    rw [Lexer.results_succ, hscans.results_eq, hscans.after_eq, hnext]
  refine ⟨?_, scanned, hresults, String.ofList before, ?_, ?_, ?_⟩
  · have hline' : line.toList = (before ++ blamed) ++ behind := by rw [hline, List.append_assoc]
    have hcover : byteLength (before ++ blamed) = e.span.stop := by
      rw [byteLength_append, hbefore, hstop]
    have hsize : byteLength (before ++ blamed) + byteLength behind = line.utf8ByteSize := by
      rw [← byteLength_append, ← hline', byteLength_toList]
    refine ⟨?_, ?_, hbefore ▸ isValid_of_append hline, hcover ▸ isValid_of_append hline'⟩
    · omega
    · omega
  · exact @Span.slice?_of_toList _ line [] before _ hline rfl (by rw [hbefore]; exact Nat.zero_add _)
  · intro hcause
    -- Nothing but separators was passed behind the last token.
    obtain rfl := hfault.eq_nil hcause
    rw [List.append_nil] at htokens hstart
    rw [htokens, Lexer.tokens_of_finish (Lexer.next_finish hblanks) rfl, hstart]
    rfl
  · intro c hcause
    rw [hcause] at hfault
    obtain ⟨written, rfl, rfl, hopened⟩ := hfault.exists_opened
    have hquote : r.rest = blanks ++ (['"'] ++ (written ++ (['\\', c] ++ behind))) := by
      rw [hrest]
      rfl
    obtain ⟨lead, hline', hlead, -⟩ := Lexer.tokens_before hscans hquote
    rw [← hskip] at hlead
    refine ⟨?_, r.skipBlanks.offset, by rw [hscans.after_eq], ?_, ?_⟩
    · exact @Span.slice?_of_toList _ line before ['\\'] (c :: behind) hline hbefore rfl
    · exact Span.slice?_of_toList hline' hlead rfl
    · rw [htokens, Lexer.tokens_opened hblanks hopened, ← hskip, ← hstart]
      rfl

/-- A point that belongs to no number, behind a number and before a character of two bytes. -/
def pointLine : String :=
  String.ofList ['1', '2', '.', 'é']

/-- An escape that stands for nothing, behind a character of two bytes. -/
def escapeLine : String :=
  String.ofList ['x', ' ', '=', ' ', '"', 'é', '\\', 'q', '"']

theorem tokenize_error_place_escapeLine :
    (tokenize pointLine = .error ⟨.unexpectedChar '.', ⟨2, 3⟩⟩ ∧
      ∃ scanned before, (⟨0, 2⟩ : Span).slice? pointLine = some before ∧
        tokenize before = .ok (scanned ++ [finishAt 2])) ∧
    (tokenize escapeLine = .error ⟨.invalidEscape 'q', ⟨7, 9⟩⟩ ∧
      ∃ before quote, (⟨0, 7⟩ : Span).slice? escapeLine = some before ∧
        (⟨quote, quote + 1⟩ : Span).slice? escapeLine = some "\"" ∧
        tokenize before = .error ⟨.unterminatedText, ⟨quote, 7⟩⟩) := by
  have hpoint : tokenize pointLine = .error ⟨.unexpectedChar '.', ⟨2, 3⟩⟩ := by decide +kernel
  have hescape : tokenize escapeLine = .error ⟨.invalidEscape 'q', ⟨7, 9⟩⟩ := by decide +kernel
  refine ⟨⟨hpoint, ?_⟩, hescape, ?_⟩
  · obtain ⟨-, scanned, -, before, hslice, htokens, -⟩ := tokenize_error_place hpoint
    exact ⟨scanned, before, hslice, htokens (by simp)⟩
  · obtain ⟨-, scanned, -, before, hslice, -, htokens⟩ := tokenize_error_place hescape
    obtain ⟨-, quote, -, hquote, hfault⟩ := htokens 'q' rfl
    exact ⟨before, quote, hslice, hquote, hfault⟩

end Reckoner
