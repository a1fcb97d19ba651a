import Reckoner.Proofs.Lexing.Word

/-!
# Lines as words and separators

`Lexes chars offset ts` says that the characters, the first of them at the offset, are the words of
the tokens `ts` with separators before, between and behind them, and that every word ends before
what follows it. The last of the tokens is the end of the line.

The lexer reads a line as some tokens exactly if the line is made up in this way
(`tokens_eq_ok_iff`). So a line can be put together from words and taken apart into them.
-/

set_option autoImplicit false

namespace Reckoner

namespace Token

theorem byteLength_append (a b : List Char) :
    byteLength (a ++ b) = byteLength a + byteLength b := by
  induction a with
  | nil => simp [byteLength]
  | cons c a ih => simp [byteLength, ih, Nat.add_assoc]

/-- Only separators. -/
def Blank (chars : List Char) : Prop :=
  ∀ c ∈ chars, isBlank c = true

instance (chars : List Char) : Decidable (Blank chars) :=
  List.decidableBAll (fun c => isBlank c = true) chars

theorem separates_of_isBlank {c : Char} (h : isBlank c = true) : Separates c := by
  simp only [isBlank, Bool.or_eq_true, beq_iff_eq] at h
  rcases h with ((rfl | rfl) | rfl) | rfl <;> exact ⟨rfl, by decide, by decide⟩

/-- The token of a word that begins at an offset. -/
def ofWord (kind : Kind) (word : List Char) (start : Nat) : Token where
  kind := kind
  text := String.ofList word
  span := ⟨start, start + byteLength word⟩

/-- The characters are the words of the tokens, with separators around them. -/
inductive Lexes : List Char → Nat → List Token → Prop
  | finish {blanks : List Char} {offset : Nat} :
      Blank blanks → Lexes blanks offset [finishAt (offset + byteLength blanks)]
  | token {blanks word rest : List Char} {offset start : Nat} {kind : Kind} {ts : List Token} :
      Blank blanks → Word word kind → kind.EndsBefore rest → start = offset + byteLength blanks →
      Lexes rest (start + byteLength word) ts →
      Lexes (blanks ++ (word ++ rest)) offset (ofWord kind word start :: ts)

section Lexes

variable {chars word rest : List Char} {offset : Nat} {kind : Kind} {ts : List Token}

theorem Lexes.cons (hword : Word word kind) (hend : kind.EndsBefore rest)
    (h : Lexes rest (offset + byteLength word) ts) :
    Lexes (word ++ rest) offset (ofWord kind word offset :: ts) :=
  @Lexes.token [] word rest offset offset kind ts (by simp [Blank]) hword hend rfl h

theorem Lexes.blank {c : Char} (hc : isBlank c = true) (h : Lexes chars (offset + c.utf8Size) ts) :
    Lexes (c :: chars) offset ts := by
  cases h with
  | finish hblanks =>
    rw [Nat.add_assoc]
    exact Lexes.finish (by simpa [Blank] using ⟨hc, hblanks⟩)
  | @token blanks _ _ _ _ _ _ hblanks hword hend hstart h =>
    refine @Lexes.token (c :: blanks) _ _ _ _ _ _ ?_ hword hend ?_ h
    · simpa [Blank] using ⟨hc, hblanks⟩
    · rw [hstart, byteLength, Nat.add_assoc]

/-- The tokens of a line are words and then its end. -/
theorem Lexes.exists_finish (h : Lexes chars offset ts) :
    ∃ body, ts = body ++ [finishAt (offset + byteLength chars)] ∧
      ∀ t ∈ body, t.kind.isFinish = false := by
  induction h with
  | finish => exact ⟨[], rfl, by simp⟩
  | @token blanks word rest offset start kind ts _ hword _ hstart _ ih =>
    obtain ⟨body, rfl, hbody⟩ := ih
    refine ⟨ofWord kind word start :: body, ?_, ?_⟩
    · rw [hstart, byteLength_append, byteLength_append, List.cons_append, Nat.add_assoc,
        Nat.add_assoc]
    · simpa using ⟨hword.isFinish, hbody⟩

/-- The last token of a line is its end, and no other is. -/
theorem Lexes.finish_of_append {q : Token} (h : Lexes chars offset (ts ++ [q])) :
    q = finishAt (offset + byteLength chars) ∧ ∀ t ∈ ts, t.kind.isFinish = false := by
  obtain ⟨body, hts, hbody⟩ := h.exists_finish
  obtain ⟨rfl, hq⟩ : ts = body ∧ q = finishAt (offset + byteLength chars) := by
    simpa using List.append_inj' hts rfl
  exact ⟨hq, hbody⟩

/-- The text of every token but the end is a word, whose bytes the token covers. -/
theorem Lexes.word_of_mem (h : Lexes chars offset ts) {t : Token} (ht : t ∈ ts)
    (hkind : t.kind.isFinish = false) :
    Word t.text.toList t.kind ∧ t.span.stop = t.span.start + byteLength t.text.toList := by
  induction h with
  | finish =>
    rw [List.mem_singleton] at ht
    subst ht
    simp [finishAt, Kind.isFinish] at hkind
  | @token blanks word rest offset start kind ts _ hword _ _ _ ih =>
    rcases List.mem_cons.1 ht with rfl | ht
    · simp only [ofWord, String.toList_ofList, and_true]
      exact hword
    · exact ih ht

end Lexes

end Token

namespace Lexer

open Token

theorem skipBlanks_run {blanks rest : List Char} {offset : Nat} (hblanks : Blank blanks)
    (hrest : ∀ c ∈ rest.head?, isBlank c = false) :
    skipBlanks ⟨blanks ++ rest, offset⟩ = ⟨rest, offset + byteLength blanks⟩ := by
  simp [skipBlanks, drop, takeWhile_run hblanks hrest]

theorem next_finish {blanks : List Char} {offset : Nat} (hblanks : Blank blanks) :
    next ⟨blanks, offset⟩ =
      (.ok (finishAt (offset + byteLength blanks)), ⟨[], offset + byteLength blanks⟩) := by
  have hskip := @skipBlanks_run blanks [] offset hblanks (by simp)
  rw [List.append_nil] at hskip
  simp [next, hskip]

/-- Behind separators, what stands next is read where it stands. -/
theorem next_read {blanks more : List Char} {c : Char} {offset : Nat} (hblanks : Blank blanks)
    (hc : isBlank c = false) :
    next ⟨blanks ++ c :: more, offset⟩ =
      (locate ⟨c :: more, offset + byteLength blanks⟩ (read c more),
        drop ⟨c :: more, offset + byteLength blanks⟩ (read c more).length) := by
  have hskip := @skipBlanks_run blanks (c :: more) offset hblanks (by simpa using hc)
  simp only [next, hskip]

theorem next_token {blanks word rest : List Char} {offset : Nat} {kind : Token.Kind}
    (hblanks : Blank blanks) (hword : Word word kind) (hend : kind.EndsBefore rest) :
    next ⟨blanks ++ (word ++ rest), offset⟩ =
      (.ok (ofWord kind word (offset + byteLength blanks)),
        ⟨rest, offset + byteLength blanks + byteLength word⟩) := by
  obtain ⟨c, more, rfl, hc⟩ := hword.exists_cons
  have hskip := @skipBlanks_run blanks (c :: more ++ rest) offset hblanks (by simpa using hc)
  have hread : read c (more ++ rest) = .token kind (c :: more).length :=
    read_eq_token_iff.2 ⟨c :: more, rest, rfl, rfl, hword, hend⟩
  have htake : (c :: (more ++ rest)).take (c :: more).length = c :: more := by simp
  have hdrop : (c :: (more ++ rest)).drop (c :: more).length = rest := by simp
  rw [List.cons_append] at hskip ⊢
  simp only [next, hskip, hread, locate, Reading.length, spanOf, drop, htake, hdrop, ofWord,
    List.take_zero, byteLength, Nat.add_zero]

/-- What can happen where a token may stand: the line ends, there is a word, or there is a
fault. -/
theorem next_cases (l : Lexer) :
    (∃ blanks, Blank blanks ∧ l = ⟨blanks, l.offset⟩) ∨
      (∃ blanks word rest kind, Blank blanks ∧ Word word kind ∧ kind.EndsBefore rest ∧
        l = ⟨blanks ++ (word ++ rest), l.offset⟩) ∨
      ∃ e l', l.next = (.error e, l') := by
  obtain ⟨chars, offset⟩ := l
  obtain ⟨blanks, rest, rfl, hblanks, hrest⟩ := exists_run isBlank chars
  cases rest with
  | nil => exact Or.inl ⟨blanks, hblanks, by simp⟩
  | cons c more =>
    refine Or.inr ?_
    cases hread : read c more with
    | token kind n =>
      obtain ⟨word, rest, hchars, -, hword, hend⟩ := read_eq_token_iff.1 hread
      exact Or.inl ⟨blanks, word, rest, kind, hblanks, hword, hend, by rw [hchars]⟩
    | fault cause skip n =>
      refine Or.inr ?_
      simp only [next, skipBlanks_run hblanks hrest, hread, locate]
      exact ⟨_, _, rfl⟩

theorem tokens_of_finish {l l' : Lexer} {t : Token} (h : l.next = (.ok t, l'))
    (ht : t.kind.isFinish = true) : l.tokens = .ok [t] := by
  rw [tokens]
  split
  · simp_all
  · next t' _ h' =>
    obtain ⟨rfl, -⟩ : t = t' ∧ _ := by simpa [h] using h'
    simp [ht]

theorem tokens_of_token {l l' : Lexer} {t : Token} (h : l.next = (.ok t, l'))
    (ht : t.kind.isFinish = false) : l.tokens = l'.tokens.map (t :: ·) := by
  rw [tokens]
  split
  · simp_all
  · next t' l'' h' =>
    obtain ⟨rfl, rfl⟩ : t = t' ∧ l' = l'' := by simpa [h] using h'
    simp only [ht, Bool.false_eq_true, dif_neg, not_false_eq_true]
    cases l'.tokens <;> rfl

theorem tokens_of_fault {l l' : Lexer} {e : LexError} (h : l.next = (.error e, l')) :
    l.tokens = .error e := by
  rw [tokens]
  split
  · next e' _ h' =>
    obtain ⟨rfl, -⟩ : e = e' ∧ _ := by simpa [h] using h'
    rfl
  · simp_all

/-- A line is read as some tokens exactly if it is made up of their words and separators. -/
theorem tokens_eq_ok_iff {chars : List Char} {offset : Nat} {ts : List Token} :
    tokens ⟨chars, offset⟩ = .ok ts ↔ Lexes chars offset ts := by
  constructor
  · intro h
    -- Every token takes a character, so the induction is on how many there are.
    induction hn : chars.length using Nat.strongRecOn generalizing chars offset ts with
    | _ n ih =>
    subst hn
    rcases next_cases ⟨chars, offset⟩ with ⟨blanks, hblanks, hl⟩ |
      ⟨blanks, word, rest, kind, hblanks, hword, hend, hl⟩ | ⟨e, l', hfault⟩
    · obtain rfl : chars = blanks := congrArg Lexer.rest hl
      rw [tokens_of_finish (next_finish hblanks) rfl] at h
      cases h
      exact .finish hblanks
    · obtain rfl : chars = blanks ++ (word ++ rest) := congrArg Lexer.rest hl
      rw [tokens_of_token (next_token hblanks hword hend) hword.isFinish] at h
      cases hlater : tokens ⟨rest, offset + byteLength blanks + byteLength word⟩ with
      | error e => simp [hlater, Except.map] at h
      | ok later =>
        simp only [hlater, Except.map, Except.ok.injEq] at h
        subst h
        have hshorter : rest.length < (blanks ++ (word ++ rest)).length := by
          obtain ⟨c, more, rfl, -⟩ := hword.exists_cons
          simp only [List.length_append, List.length_cons]
          omega
        exact .token hblanks hword hend rfl (ih _ hshorter hlater rfl)
    · simp [tokens_of_fault hfault] at h
  · intro h
    induction h with
    | finish hblanks => exact tokens_of_finish (next_finish hblanks) rfl
    | token hblanks hword hend hstart _ ih =>
      subst hstart
      rw [tokens_of_token (next_token hblanks hword hend) hword.isFinish, ih]
      rfl

end Lexer

theorem tokenize_eq_ok_iff {line : String} {ts : List Token} :
    tokenize line = .ok ts ↔ Token.Lexes line.toList 0 ts :=
  Lexer.tokens_eq_ok_iff

end Reckoner
