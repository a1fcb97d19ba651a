import Reckoner.Proofs.Lexing.Line

/-!
# Faults

Where no word can be read, the lexer says why and which characters are to blame.
`Fault front blamed cause` says of a fault that the characters `front` were passed before the blamed
ones. Only an escape that stands for nothing is blamed behind other characters: it stands inside a
text, and `front` is the opening quote with what was read of the text so far.

Every fault that is read has this form (`fault_of_read`), also where it stands in a line
(`fault_of_next`). What was read of a text before the fault is open: without the fault behind it,
nothing but the closing quote is missing (`Lexer.tokens_opened`).
-/

set_option autoImplicit false

namespace Reckoner

namespace Token

/-! ## Texts without an end -/

/-- Characters behind an opening quote that leave the text open. -/
inductive Opened : List Char → Prop
  | nil : Opened []
  | escape {c d : Char} {written : List Char} :
      unescape? c = some d → Opened written → Opened ('\\' :: c :: written)
  | plain {c : Char} {written : List Char} :
      c ≠ '"' → c ≠ '\\' → Opened written → Opened (c :: written)

/-- An open text is read to its end, and has no closing quote. -/
theorem Opened.textBody_eq {written : List Char} (h : Opened written) :
    textBody written = .unclosed written.length := by
  induction h with
  | nil => rfl
  | @escape c d written hd _ ih =>
    simp only [textBody, hd, ih, TextBody.push, List.length_cons]
    congr 1
    omega
  | @plain c written hquote hescape _ ih =>
    rw [textBody, ih]
    · simp only [TextBody.push, List.length_cons]
      congr 1
      omega
    · exact fun h => hquote h
    · exact fun h _ => hescape h
    · exact fun _ _ h _ => hescape h

theorem TextBody.push_eq_unclosed_iff {c : Char} {body : TextBody} {m n : Nat} :
    body.push c m = .unclosed n ↔ ∃ k, body = .unclosed k ∧ m + k = n := by
  cases body <;> simp [push]

theorem TextBody.push_eq_badEscape_iff {c e : Char} {body : TextBody} {m n : Nat} :
    body.push c m = .badEscape e n ↔ ∃ k, body = .badEscape e k ∧ m + k = n := by
  cases body <;> simp [push, and_assoc]

/-- A text without a closing quote takes all the characters there are. -/
theorem length_of_textBody {chars : List Char} {n : Nat} (h : textBody chars = .unclosed n) :
    chars.length = n := by
  fun_induction textBody chars generalizing n with
  | case1 => simpa using h
  | case2 => simp at h
  | case3 => simpa using h
  | case4 c more d hd ih =>
    obtain ⟨m, hbody, rfl⟩ := TextBody.push_eq_unclosed_iff.1 h
    rw [List.length_cons, List.length_cons, ih hbody]
    omega
  | case5 => simp at h
  | case6 c more _ _ _ ih =>
    obtain ⟨m, hbody, rfl⟩ := TextBody.push_eq_unclosed_iff.1 h
    rw [List.length_cons, ih hbody, Nat.add_comm]

/-- Before an escape that stands for nothing, a text is open. -/
theorem opened_of_textBody {chars : List Char} {c : Char} {n : Nat}
    (h : textBody chars = .badEscape c n) :
    ∃ written rest, chars = written ++ ('\\' :: c :: rest) ∧ written.length = n ∧
      Opened written := by
  fun_induction textBody chars generalizing n with
  | case1 => simp at h
  | case2 => simp at h
  | case3 => simp at h
  | case4 e more d hd ih =>
    -- an escape that stands for a character
    obtain ⟨m, hbody, rfl⟩ := TextBody.push_eq_badEscape_iff.1 h
    obtain ⟨written, rest, rfl, rfl, hopened⟩ := ih hbody
    exact ⟨'\\' :: e :: written, rest, rfl, by simp; omega, .escape hd hopened⟩
  | case5 e more =>
    -- the escape to blame
    obtain ⟨rfl, rfl⟩ : e = c ∧ 0 = n := by simpa using h
    exact ⟨[], more, rfl, rfl, .nil⟩
  | case6 d more hquote hlast hescape ih =>
    -- a character that stands for itself
    obtain ⟨m, hbody, rfl⟩ := TextBody.push_eq_badEscape_iff.1 h
    obtain ⟨written, rest, rfl, rfl, hopened⟩ := ih hbody
    refine ⟨d :: written, rest, rfl, by simp; omega, .plain ?_ ?_ hopened⟩
    · rintro rfl
      exact hquote rfl
    · -- A backslash with something behind it was a case before.
      rintro rfl
      obtain ⟨e, tail, htail⟩ : ∃ e tail, written ++ ('\\' :: c :: rest) = e :: tail :=
        List.exists_cons_of_ne_nil (by simp)
      exact hescape e tail rfl htail

/-! ## What is to blame -/

/-- The characters passed before a fault, those to blame for it, and its cause. -/
inductive Fault : List Char → List Char → LexError.Cause → Prop
  | char (c : Char) : Fault [] [c] (.unexpectedChar c)
  | number (numeral : List Char) : Fault [] numeral (.numberOutOfRange (String.ofList numeral))
  | text (body : List Char) : Fault [] ('"' :: body) .unterminatedText
  | escape {written : List Char} (c : Char) :
      Opened written → Fault ('"' :: written) ['\\', c] (.invalidEscape c)

/-- Nothing is passed before a fault that is no escape. -/
theorem Fault.eq_nil {front blamed : List Char} {cause : LexError.Cause}
    (h : Fault front blamed cause) (hcause : ∀ c, cause ≠ .invalidEscape c) : front = [] := by
  cases h with
  | char | number | text => rfl
  | escape c => exact absurd rfl (hcause c)

/-- An escape stands in a text that is still open. -/
theorem Fault.exists_opened {front blamed : List Char} {c : Char}
    (h : Fault front blamed (.invalidEscape c)) :
    ∃ written, front = '"' :: written ∧ blamed = ['\\', c] ∧ Opened written := by
  cases h with
  | escape _ hopened => exact ⟨_, rfl, rfl, hopened⟩

/-- The reading found a fault at the front of some characters. -/
def FaultAt (chars : List Char) (cause : LexError.Cause) (skip length : Nat) : Prop :=
  ∃ front blamed rest, chars = front ++ (blamed ++ rest) ∧ front.length = skip ∧
    (front ++ blamed).length = length ∧ Fault front blamed cause

theorem fault_of_readText {body : List Char} {cause : LexError.Cause} {skip n : Nat}
    (h : readText body = .fault cause skip n) : FaultAt ('"' :: body) cause skip n := by
  unfold readText at h
  split at h
  · simp at h
  · next m hbody =>
    obtain ⟨rfl, rfl, rfl⟩ : .unterminatedText = cause ∧ 0 = skip ∧ m + 1 = n := by simpa using h
    refine ⟨[], '"' :: body, [], by simp, rfl, ?_, .text body⟩
    rw [List.nil_append, List.length_cons, length_of_textBody hbody]
  · next c m hbody =>
    obtain ⟨rfl, rfl, rfl⟩ : .invalidEscape c = cause ∧ m + 1 = skip ∧ m + 3 = n := by
      simpa using h
    obtain ⟨written, rest, rfl, rfl, hopened⟩ := opened_of_textBody hbody
    exact ⟨'"' :: written, ['\\', c], rest, by simp, rfl, by simp, .escape c hopened⟩

theorem fault_of_readInteger {digits rest : List Char} {cause : LexError.Cause} {skip n : Nat}
    (h : readInteger digits = .fault cause skip n) : FaultAt (digits ++ rest) cause skip n := by
  unfold readInteger at h
  split at h
  · simp at h
  · obtain ⟨rfl, rfl, rfl⟩ : .numberOutOfRange (String.ofList digits) = cause ∧ 0 = skip ∧
        digits.length = n := by simpa using h
    exact ⟨[], digits, rest, rfl, rfl, rfl, .number digits⟩

theorem fault_of_readDecimal {whole fraction rest : List Char} {cause : LexError.Cause}
    {skip n : Nat} (h : readDecimal whole fraction = .fault cause skip n) :
    FaultAt (whole ++ '.' :: (fraction ++ rest)) cause skip n := by
  unfold readDecimal at h
  dsimp only at h
  split at h
  · simp at h
  · simp only [Reading.fault.injEq] at h
    obtain ⟨rfl, rfl, rfl⟩ := h
    exact ⟨[], whole ++ '.' :: fraction, rest, by simp, rfl, rfl, .number _⟩

theorem fault_of_readNumber {chars : List Char} {cause : LexError.Cause} {skip n : Nat}
    (h : readNumber chars = .fault cause skip n) : FaultAt chars cause skip n := by
  obtain ⟨whole, rest, rfl, hwhole, hrest⟩ := exists_run Char.isDigit chars
  simp only [readNumber, takeWhile_run hwhole hrest, dropWhile_run hwhole hrest] at h
  split at h
  · next after =>
    obtain ⟨fraction, rest, rfl, hfraction, hrest'⟩ := exists_run Char.isDigit after
    rw [takeWhile_run hfraction hrest'] at h
    cases fraction with
    | nil => exact fault_of_readInteger h
    | cons digit more => exact fault_of_readDecimal h
  · exact fault_of_readInteger h

/-- A fault that is read is one of the four, and takes the characters up to those it blames. -/
theorem fault_of_read {c : Char} {more : List Char} {cause : LexError.Cause} {skip n : Nat}
    (h : read c more = .fault cause skip n) : FaultAt (c :: more) cause skip n := by
  unfold read at h
  split at h
  · next hc =>
    subst hc
    exact fault_of_readText h
  split at h
  · exact fault_of_readNumber h
  split at h
  · -- A name is never a fault.
    simp [readWord] at h
  split at h
  · simp at h
  · obtain ⟨rfl, rfl, rfl⟩ : .unexpectedChar c = cause ∧ 0 = skip ∧ 1 = n := by simpa using h
    exact ⟨[], [c], more, rfl, rfl, rfl, .char c⟩

end Token

namespace Lexer

open Token

/-- A fault stands behind separators and the characters that were passed before it, and its span is
that of the characters to blame. -/
theorem fault_of_next {l : Lexer} {e : LexError} (h : l.next.1 = .error e) :
    ∃ blanks front blamed rest, Blank blanks ∧ l.rest = blanks ++ (front ++ (blamed ++ rest)) ∧
      l.skipBlanks.offset = l.offset + byteLength blanks ∧ Fault front blamed e.cause ∧
      e.span.start = l.offset + byteLength (blanks ++ front) ∧
      e.span.stop = e.span.start + byteLength blamed := by
  obtain ⟨chars, offset⟩ := l
  obtain ⟨blanks, behind, rfl, hblanks, hbehind⟩ := exists_run isBlank chars
  cases behind with
  | nil =>
    rw [List.append_nil, next_finish hblanks] at h
    cases h
  | cons c more =>
    have hskip := @skipBlanks_run blanks (c :: more) offset hblanks hbehind
    rw [next_read hblanks (hbehind c rfl)] at h
    cases hread : read c more with
    | token kind n =>
      rw [hread] at h
      cases h
    | fault cause skip n =>
      obtain ⟨front, blamed, rest, hchars, rfl, rfl, hfault⟩ := fault_of_read hread
      have hpassed : (front ++ (blamed ++ rest)).take front.length = front := List.take_left' rfl
      have htaken : (front ++ (blamed ++ rest)).take (front ++ blamed).length = front ++ blamed := by
        rw [← List.append_assoc]
        exact List.take_left' rfl
      rw [hread, hchars] at h
      obtain rfl := Except.error.inj h
      rw [hchars] at hskip ⊢
      refine ⟨blanks, front, blamed, rest, hblanks, rfl, by rw [hskip], hfault, ?_, ?_⟩
      · simp only [spanOf, hpassed, byteLength_append, Nat.add_assoc]
      · simp only [spanOf, hpassed, htaken, byteLength_append, Nat.add_assoc]

/-- An opening quote and an open text, with nothing behind them, are a text without an end. -/
theorem tokens_opened {blanks written : List Char} {offset : Nat} (hblanks : Blank blanks)
    (h : Opened written) :
    tokens ⟨blanks ++ '"' :: written, offset⟩ =
      .error ⟨.unterminatedText,
        ⟨offset + byteLength blanks, offset + byteLength (blanks ++ '"' :: written)⟩⟩ := by
  have hread : read '"' written = .fault .unterminatedText 0 (written.length + 1) := by
    simp only [Token.read, if_true, readText, h.textBody_eq]
  have htaken : ('"' :: written).take (written.length + 1) = '"' :: written :=
    List.take_of_length_le (Nat.le_refl _)
  have hnext := @next_read blanks written '"' offset hblanks rfl
  rw [hread] at hnext
  rw [tokens_of_fault hnext]
  simp only [spanOf, htaken, List.take_zero, byteLength_append, Nat.add_assoc]
  rfl

end Lexer

end Reckoner
