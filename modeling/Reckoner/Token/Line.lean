import Reckoner.Token.Lexer

/-!
# Whole lines as tokens

Every reading takes at least one character, so reading a line token by token ends. The tokens of a
line end with the token of its end; a fault anywhere leaves the line without tokens.
-/

set_option autoImplicit false

namespace Reckoner

namespace Token

theorem takeWhile_length_pos {p : Char → Bool} {c : Char} (more : List Char) (h : p c = true) :
    0 < ((c :: more).takeWhile p).length := by
  simp [h]

theorem readInteger_length (digits : List Char) : (readInteger digits).length = digits.length := by
  unfold readInteger
  split <;> rfl

theorem readDecimal_length (whole fraction : List Char) :
    (readDecimal whole fraction).length = whole.length + fraction.length + 1 := by
  unfold readDecimal
  dsimp only
  split <;> simp [Reading.length] <;> omega

theorem readNumber_length_pos {c : Char} (more : List Char) (h : c.isDigit = true) :
    0 < (readNumber (c :: more)).length := by
  unfold readNumber
  dsimp only
  split
  · split
    · rw [readInteger_length]
      exact takeWhile_length_pos more h
    · rw [readDecimal_length]
      omega
  · rw [readInteger_length]
    exact takeWhile_length_pos more h

theorem continuesName_of_startsName {c : Char} (h : startsName c = true) :
    continuesName c = true := by
  simp only [startsName, continuesName, Char.isAlphanum, Bool.or_eq_true] at h ⊢
  rcases h with h | h
  · exact Or.inl (Or.inl h)
  · exact Or.inr h

theorem readWord_length_pos {c : Char} (more : List Char) (h : startsName c = true) :
    0 < (readWord (c :: more)).length :=
  takeWhile_length_pos more (continuesName_of_startsName h)

theorem readText_length_pos (body : List Char) : 0 < (readText body).length := by
  unfold readText
  split <;> simp [Reading.length]

theorem symbol?_length_pos {chars : List Char} {kind : Kind} {n : Nat}
    (h : symbol? chars = some (kind, n)) : 0 < n := by
  unfold symbol? at h
  split at h <;> simp_all <;> omega

/-- Every reading takes a character. -/
theorem read_length_pos (c : Char) (more : List Char) : 0 < (read c more).length := by
  unfold read
  split
  · exact readText_length_pos more
  · split
    · next h => exact readNumber_length_pos more h
    · split
      · next h => exact readWord_length_pos more h
      · split
        · next h => exact symbol?_length_pos h
        · exact Nat.one_pos

end Token

namespace Lexer

open Token

theorem skipBlanks_rest_length (l : Lexer) : l.skipBlanks.rest.length ≤ l.rest.length := by
  simp [skipBlanks, drop]

/-- Reading a token other than the end leaves fewer characters. -/
theorem next_rest_length {l l' : Lexer} {t : Token} (h : l.next = (.ok t, l'))
    (finish : t.kind.isFinish = false) : l'.rest.length < l.rest.length := by
  unfold next at h
  dsimp only at h
  split at h
  · simp only [Prod.mk.injEq, Except.ok.injEq] at h
    rw [← h.1] at finish
    simp [finishAt, Kind.isFinish] at finish
  · next c more rest =>
    simp only [Prod.mk.injEq] at h
    rw [← h.2]
    have blanks := skipBlanks_rest_length l
    have taken := read_length_pos c more
    simp only [drop, List.length_drop, rest, List.length_cons] at blanks ⊢
    omega

/-- The tokens from here to the end of the line, or the first fault. -/
def tokens (l : Lexer) : Except LexError (List Token) :=
  match h : l.next with
  | (.error e, _) => .error e
  | (.ok t, l') =>
    if finish : t.kind.isFinish then .ok [t]
    else
      have : l'.rest.length < l.rest.length := next_rest_length h (by simpa using finish)
      match tokens l' with
      | .error e => .error e
      | .ok later => .ok (t :: later)
termination_by l.rest.length

end Lexer

/-- The tokens of a line, the last of them its end, or the first fault of the line. -/
def tokenize (line : String) : Except LexError (List Token) :=
  (Lexer.ofLine line).tokens

end Reckoner
