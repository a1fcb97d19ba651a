import Reckoner.Token.Line

/-!
# Words

The words of a line, by kind of token, and what a word of each kind ends before. A word is read
off the front of some characters exactly if the characters behind it do not make it longer
(`read_eq_token_iff`): a digit behind a number, a character of a name behind a name, or an equals
sign behind an operator that has a longer one.

Two things follow that hold for words of every kind. What is cut off behind a word that was read
does not change how it is read (`Kind.EndsBefore.cut`), and before a separator every word ends
(`Kind.endsBefore_of_separator`).
-/

set_option autoImplicit false

namespace Reckoner.Token

/-! ## The words -/

/-- What stands behind the opening quote of a text, the closing quote included, and the text. -/
inductive Quotation : List Char → List Char → Prop
  | close : Quotation ['"'] []
  | escape {c d : Char} {written text : List Char} :
      unescape? c = some d → Quotation written text → Quotation ('\\' :: c :: written) (d :: text)
  | plain {c : Char} {written text : List Char} :
      c ≠ '"' → c ≠ '\\' → Quotation written text → Quotation (c :: written) (c :: text)

/-- The operators, the brackets and the comma. -/
def symbols : List (List Char × Kind) :=
  [(['=', '='], .equal), (['!', '='], .notEqual), (['<', '='], .lessEqual),
   (['>', '='], .greaterEqual), (['='], .assign), (['<'], .less), (['>'], .greater),
   (['+'], .plus), (['-'], .minus), (['*'], .star), (['/'], .slash), (['%'], .percent),
   (['('], .opening .round), ([')'], .closing .round), (['['], .opening .square),
   ([']'], .closing .square), ([','], .comma)]

/-- One or more digits. -/
def Digits (chars : List Char) : Prop :=
  chars ≠ [] ∧ ∀ c ∈ chars, c.isDigit = true

/-- The words of each kind. -/
inductive Word : List Char → Kind → Prop
  | int {digits : List Char} {n : Int64} :
      Digits digits → Integer.fit? (Numeral.value digits) = some n → Word digits (.int n)
  | float {whole fraction : List Char} :
      Digits whole → Digits fraction →
      Binary64.isFinite (Binary64.ofDecimal (Decimal.ofParts whole fraction)) = true →
      Word (whole ++ '.' :: fraction)
        (.float (Binary64.ofDecimal (Decimal.ofParts whole fraction)))
  | word {c : Char} {more : List Char} :
      startsName c = true → (∀ d ∈ more, continuesName d = true) →
      Word (c :: more)
        ((Kind.ofKeyword? (String.ofList (c :: more))).getD (.name (String.ofList (c :: more))))
  | text {written text : List Char} :
      Quotation written text → Word ('"' :: written) (.text (String.ofList text))
  | symbol {chars : List Char} {kind : Kind} : (chars, kind) ∈ symbols → Word chars kind

/-- A word of the kind ends before these characters: they do not make it longer. -/
def Kind.EndsBefore : Kind → List Char → Prop
  | .int _, rest =>
    (∀ c ∈ rest.head?, c.isDigit = false) ∧ ∀ c more, rest = '.' :: c :: more → c.isDigit = false
  | .float _, rest => ∀ c ∈ rest.head?, c.isDigit = false
  | .name _, rest => ∀ c ∈ rest.head?, continuesName c = false
  | .bool _, rest => ∀ c ∈ rest.head?, continuesName c = false
  | .not, rest => ∀ c ∈ rest.head?, continuesName c = false
  | .assign, rest => ∀ c ∈ rest.head?, c ≠ '='
  | .less, rest => ∀ c ∈ rest.head?, c ≠ '='
  | .greater, rest => ∀ c ∈ rest.head?, c ≠ '='
  | _, _ => True

/-! ## Reading off the front -/

/-- A text is read up to its closing quote. -/
theorem textBody_eq_closed_iff {chars text : List Char} {n : Nat} :
    textBody chars = .closed text n ↔
      ∃ written rest, chars = written ++ rest ∧ written.length = n ∧ Quotation written text := by
  constructor
  · intro h
    fun_induction textBody chars generalizing text n with
    | case1 => simp at h
    | case2 more =>
      -- the closing quote
      obtain ⟨rfl, rfl⟩ : [] = text ∧ 1 = n := by simpa using h
      exact ⟨['"'], more, rfl, rfl, .close⟩
    | case3 => simp at h
    | case4 c more d hd ih =>
      -- an escape that stands for a character
      cases hbody : textBody more with
      | closed value m =>
        obtain ⟨rfl, rfl⟩ : d :: value = text ∧ 2 + m = n := by
          simpa [hbody, TextBody.push] using h
        obtain ⟨written, rest, rfl, rfl, hq⟩ := ih hbody
        exact ⟨'\\' :: c :: written, rest, rfl, by simp; omega, .escape hd hq⟩
      | unclosed => simp [hbody, TextBody.push] at h
      | badEscape => simp [hbody, TextBody.push] at h
    | case5 => simp at h
    | case6 c more hquote hlast hescape ih =>
      -- a character that stands for itself
      cases hbody : textBody more with
      | closed value m =>
        obtain ⟨rfl, rfl⟩ : c :: value = text ∧ 1 + m = n := by
          simpa [hbody, TextBody.push] using h
        obtain ⟨written, rest, rfl, rfl, hq⟩ := ih hbody
        refine ⟨c :: written, rest, rfl, by simp; omega, .plain ?_ ?_ hq⟩
        · rintro rfl
          exact hquote rfl
        · -- A backslash is the last character or begins an escape; both were cases before.
          rintro rfl
          cases hrest : written ++ rest with
          | nil => exact hlast rfl hrest
          | cons d more => exact hescape d more rfl hrest
      | unclosed => simp [hbody, TextBody.push] at h
      | badEscape => simp [hbody, TextBody.push] at h
  · rintro ⟨written, rest, rfl, rfl, hq⟩
    induction hq with
    | close => rfl
    | @escape c d written text hd _ ih =>
      simp only [List.cons_append, textBody, hd, ih, TextBody.push, List.length_cons]
      congr 1
      omega
    | @plain c written text hquote hescape _ ih =>
      rw [List.cons_append, textBody, ih]
      · simp only [TextBody.push, List.length_cons]
        congr 1
        omega
      · exact fun h => hquote h
      · exact fun h _ => hescape h
      · exact fun _ _ h _ => hescape h

/-- Characters are a run of those with a property, and then something else. -/
theorem exists_run (p : Char → Bool) (chars : List Char) :
    ∃ run rest, chars = run ++ rest ∧ (∀ c ∈ run, p c = true) ∧ ∀ c ∈ rest.head?, p c = false := by
  induction chars with
  | nil => exact ⟨[], [], rfl, by simp, by simp⟩
  | cons c chars ih =>
    by_cases hc : p c = true
    · obtain ⟨run, rest, rfl, hrun, hrest⟩ := ih
      exact ⟨c :: run, rest, rfl, by simpa using ⟨hc, hrun⟩, hrest⟩
    · exact ⟨[], c :: chars, rfl, by simp, by simpa using hc⟩

section Run

variable {p : Char → Bool} {run rest : List Char} (hrun : ∀ c ∈ run, p c = true)
  (hrest : ∀ c ∈ rest.head?, p c = false)

include hrun hrest

theorem takeWhile_run : (run ++ rest).takeWhile p = run := by
  rw [List.takeWhile_append_of_pos hrun]
  cases rest with
  | nil => simp
  | cons c rest => simp [hrest c rfl]

theorem dropWhile_run : (run ++ rest).dropWhile p = rest := by
  rw [List.dropWhile_append_of_pos hrun]
  cases rest with
  | nil => rfl
  | cons c rest => simp [hrest c rfl]

/-- Where a run ends can be seen. -/
theorem run_append_inj {run' rest' : List Char} (hrun' : ∀ c ∈ run', p c = true)
    (hrest' : ∀ c ∈ rest'.head?, p c = false) (h : run ++ rest = run' ++ rest') :
    run = run' ∧ rest = rest' := by
  constructor
  · rw [← takeWhile_run hrun hrest, h, takeWhile_run hrun' hrest']
  · rw [← dropWhile_run hrun hrest, h, dropWhile_run hrun' hrest']

end Run

/-! ### Numbers -/

theorem Digits.exists_cons {digits : List Char} (h : Digits digits) :
    ∃ c more, digits = c :: more ∧ c.isDigit = true := by
  obtain ⟨hne, hall⟩ := h
  obtain ⟨c, more, rfl⟩ := List.exists_cons_of_ne_nil hne
  exact ⟨c, more, rfl, hall c (by simp)⟩

theorem readInteger_of_fit {digits : List Char} {n : Int64}
    (h : Integer.fit? (Numeral.value digits) = some n) :
    readInteger digits = .token (.int n) digits.length := by
  simp only [readInteger, h]

theorem word_of_readInteger {digits rest : List Char} {kind : Kind} {n : Nat}
    (hdigits : Digits digits) (hrest : ∀ c ∈ rest.head?, c.isDigit = false)
    (hpoint : ∀ c more, rest = '.' :: c :: more → c.isDigit = false)
    (h : readInteger digits = .token kind n) :
    digits.length = n ∧ Word digits kind ∧ kind.EndsBefore rest := by
  unfold readInteger at h
  split at h
  · next m hm =>
    obtain ⟨rfl, rfl⟩ : .int m = kind ∧ digits.length = n := by simpa using h
    exact ⟨rfl, .int hdigits hm, hrest, hpoint⟩
  · simp at h

theorem word_of_readDecimal {whole fraction rest : List Char} {kind : Kind} {n : Nat}
    (hwhole : Digits whole) (hfraction : Digits fraction)
    (hrest : ∀ c ∈ rest.head?, c.isDigit = false)
    (h : readDecimal whole fraction = .token kind n) :
    (whole ++ '.' :: fraction).length = n ∧ Word (whole ++ '.' :: fraction) kind ∧
      kind.EndsBefore rest := by
  unfold readDecimal at h
  dsimp only at h
  split at h
  · next hfinite =>
    simp only [Reading.token.injEq] at h
    obtain ⟨rfl, rfl⟩ := h
    exact ⟨rfl, .float hwhole hfraction hfinite, hrest⟩
  · simp at h

theorem readNumber_int {digits rest : List Char} {n : Int64} (hdigits : Digits digits)
    (hfit : Integer.fit? (Numeral.value digits) = some n) (hrest : (Kind.int n).EndsBefore rest) :
    readNumber (digits ++ rest) = .token (.int n) digits.length := by
  obtain ⟨hhead, hpoint⟩ := hrest
  simp only [readNumber, takeWhile_run hdigits.2 hhead, dropWhile_run hdigits.2 hhead]
  split
  · next after =>
    -- A point behind the digits has no digit behind it.
    have hafter : after.takeWhile Char.isDigit = [] := by
      cases after with
      | nil => rfl
      | cons c more => simp [hpoint c more rfl]
    rw [hafter]
    exact readInteger_of_fit hfit
  · exact readInteger_of_fit hfit

theorem readNumber_float {whole fraction rest : List Char} (hwhole : Digits whole)
    (hfraction : Digits fraction)
    (hfinite : Binary64.isFinite (Binary64.ofDecimal (Decimal.ofParts whole fraction)) = true)
    (hrest : ∀ c ∈ rest.head?, c.isDigit = false) :
    readNumber (whole ++ '.' :: fraction ++ rest) =
      .token (.float (Binary64.ofDecimal (Decimal.ofParts whole fraction)))
        (whole ++ '.' :: fraction).length := by
  have hpoint : ∀ c ∈ ('.' :: (fraction ++ rest)).head?, c.isDigit = false := by simp
  rw [List.append_assoc, List.cons_append]
  simp only [readNumber, takeWhile_run hwhole.2 hpoint, dropWhile_run hwhole.2 hpoint,
    takeWhile_run hfraction.2 hrest]
  obtain ⟨hne, -⟩ := hfraction
  cases fraction with
  | nil => exact absurd rfl hne
  | cons digit more => simp only [readDecimal, hfinite, if_true]

/-- What is read as a number is a word that ends where the reading does. -/
theorem word_of_readNumber {c : Char} {more : List Char} {kind : Kind} {n : Nat}
    (hc : c.isDigit = true) (h : readNumber (c :: more) = .token kind n) :
    ∃ word rest, c :: more = word ++ rest ∧ word.length = n ∧ Word word kind ∧
      kind.EndsBefore rest := by
  obtain ⟨whole, rest, hchars, hwhole, hrest⟩ := exists_run Char.isDigit (c :: more)
  rw [hchars] at h ⊢
  have hdigits : Digits whole := by
    refine ⟨?_, hwhole⟩
    rintro rfl
    obtain rfl : c :: more = rest := hchars
    simp [hrest c rfl] at hc
  simp only [readNumber, takeWhile_run hwhole hrest, dropWhile_run hwhole hrest] at h
  split at h
  · next after =>
    obtain ⟨fraction, rest, rfl, hfraction, hrest'⟩ := exists_run Char.isDigit after
    rw [takeWhile_run hfraction hrest'] at h
    cases fraction with
    | nil =>
      -- The point is left behind the word.
      refine ⟨whole, '.' :: rest, rfl, word_of_readInteger hdigits hrest ?_ h⟩
      rintro d more' ⟨⟩
      exact hrest' d rfl
    | cons digit more' =>
      refine ⟨whole ++ '.' :: digit :: more', rest, by simp, ?_⟩
      exact word_of_readDecimal hdigits ⟨by simp, hfraction⟩ hrest' h
  · next hpoint =>
    refine ⟨whole, rest, rfl, word_of_readInteger hdigits hrest ?_ h⟩
    rintro d more' rfl
    exact absurd rfl (hpoint (d :: more'))

/-! ### Names and symbols -/

theorem le_toNat_of_isAlpha {c : Char} (h : c.isAlpha = true) : 'A'.toNat ≤ c.toNat := by
  rcases Bool.or_eq_true_iff.1 h with h | h
  · exact UInt32.le_iff_toNat_le.1 (of_decide_eq_true h).1
  · have hle : 'a'.toNat ≤ c.toNat :=
      UInt32.le_iff_toNat_le.1 (of_decide_eq_true (Bool.and_eq_true_iff.1 h).1)
    exact Nat.le_trans (by decide) hle

/-- The letters stand behind the digits. -/
theorem isDigit_of_startsName {c : Char} (h : startsName c = true) : c.isDigit = false := by
  rw [startsName, Bool.or_eq_true, beq_iff_eq] at h
  rcases h with h | rfl
  · rw [Bool.eq_false_iff, Ne, Char.isDigit_iff_toNat]
    rintro ⟨-, hle⟩
    exact absurd (Nat.le_trans (le_toNat_of_isAlpha h) hle) (by decide)
  · rfl

/-- Reserved words end where names do. -/
theorem endsBefore_word {text : String} {rest : List Char} :
    ((Kind.ofKeyword? text).getD (.name text)).EndsBefore rest ↔
      ∀ c ∈ rest.head?, continuesName c = false := by
  unfold Kind.ofKeyword?
  split <;> rfl

theorem word_of_readWord {c : Char} {more : List Char} {kind : Kind} {n : Nat}
    (hc : startsName c = true) (h : readWord (c :: more) = .token kind n) :
    ∃ word rest, c :: more = word ++ rest ∧ word.length = n ∧ Word word kind ∧
      kind.EndsBefore rest := by
  obtain ⟨run, rest, rfl, hrun, hrest⟩ := exists_run continuesName more
  have hword : (c :: (run ++ rest)).takeWhile continuesName = c :: run := by
    rw [List.takeWhile_cons_of_pos (continuesName_of_startsName hc), takeWhile_run hrun hrest]
  simp only [readWord, hword, Reading.token.injEq] at h
  obtain ⟨rfl, rfl⟩ := h
  exact ⟨c :: run, rest, rfl, rfl, .word hc hrun, endsBefore_word.2 hrest⟩

theorem readWord_word {c : Char} {run rest : List Char} (hc : startsName c = true)
    (hrun : ∀ d ∈ run, continuesName d = true) (hrest : ∀ d ∈ rest.head?, continuesName d = false) :
    readWord (c :: run ++ rest) =
      .token ((Kind.ofKeyword? (String.ofList (c :: run))).getD (.name (String.ofList (c :: run))))
        (c :: run).length := by
  have hword : (c :: run ++ rest).takeWhile continuesName = c :: run := by
    refine takeWhile_run ?_ hrest
    simpa using ⟨continuesName_of_startsName hc, hrun⟩
  simp only [readWord, hword]

/-- Of two operators of which one begins the other, the longer one is read. -/
theorem symbol?_eq_some_iff {chars : List Char} {kind : Kind} {n : Nat} :
    symbol? chars = some (kind, n) ↔
      ∃ word rest, chars = word ++ rest ∧ word.length = n ∧ (word, kind) ∈ symbols ∧
        kind.EndsBefore rest := by
  constructor
  · intro h
    unfold symbol? at h
    split at h
    case h_18 => simp at h
    all_goals obtain ⟨rfl, rfl⟩ : _ = kind ∧ _ = n := by simpa using h
    case h_1 | h_2 | h_3 | h_4 =>
      exact ⟨[_, _], _, rfl, rfl, by simp [symbols], trivial⟩
    case h_5 | h_6 | h_7 =>
      -- The longer operator would have been read.
      next rest hno =>
        refine ⟨[_], rest, rfl, rfl, by simp [symbols], ?_⟩
        rintro c hc rfl
        obtain ⟨more, rfl⟩ := List.head?_eq_some_iff.1 hc
        exact hno more rfl
    all_goals exact ⟨[_], _, rfl, rfl, by simp [symbols], trivial⟩
  · rintro ⟨word, rest, rfl, rfl, hmem, hend⟩
    simp only [symbols, List.mem_cons, Prod.mk.injEq, List.not_mem_nil, or_false] at hmem
    rcases hmem with ⟨rfl, rfl⟩ | ⟨rfl, rfl⟩ | ⟨rfl, rfl⟩ | ⟨rfl, rfl⟩ | ⟨rfl, rfl⟩ | ⟨rfl, rfl⟩ |
      ⟨rfl, rfl⟩ | hmem
    iterate 4 rfl
    iterate 3
      cases rest with
      | nil => rfl
      | cons d rest => simp [symbol?, hend d rfl]
    rcases hmem with ⟨rfl, rfl⟩ | ⟨rfl, rfl⟩ | ⟨rfl, rfl⟩ | ⟨rfl, rfl⟩ | ⟨rfl, rfl⟩ | ⟨rfl, rfl⟩ |
      ⟨rfl, rfl⟩ | ⟨rfl, rfl⟩ | ⟨rfl, rfl⟩ | ⟨rfl, rfl⟩ <;> rfl

/-! ### Words of every kind -/

theorem word_of_readText {body : List Char} {kind : Kind} {n : Nat}
    (h : readText body = .token kind n) :
    ∃ word rest, '"' :: body = word ++ rest ∧ word.length = n ∧ Word word kind ∧
      kind.EndsBefore rest := by
  unfold readText at h
  split at h
  · next text m hbody =>
    obtain ⟨rfl, rfl⟩ : .text (String.ofList text) = kind ∧ m + 1 = n := by simpa using h
    obtain ⟨written, rest, rfl, rfl, hq⟩ := textBody_eq_closed_iff.1 hbody
    exact ⟨'"' :: written, rest, rfl, rfl, .text hq, trivial⟩
  · simp at h
  · simp at h

/-- The first character of a symbol begins no other word, and is no separator. -/
theorem exists_cons_of_mem_symbols {word : List Char} {kind : Kind} (h : (word, kind) ∈ symbols) :
    ∃ c more, word = c :: more ∧ c ≠ '"' ∧ c.isDigit = false ∧ startsName c = false ∧
      isBlank c = false := by
  have hall : ∀ pair ∈ symbols, pair.1.head?.any
      (fun c => c != '"' && !c.isDigit && !startsName c && !isBlank c) = true := by decide
  have hhead := hall _ h
  cases word with
  | nil => simp at hhead
  | cons c more =>
    refine ⟨c, more, rfl, ?_⟩
    simpa [and_assoc] using hhead

theorem read_symbol {c : Char} {more : List Char} {kind : Kind} {n : Nat}
    (h : symbol? (c :: more) = some (kind, n)) : read c more = .token kind n := by
  obtain ⟨word, rest, hchars, -, hmem, -⟩ := symbol?_eq_some_iff.1 h
  obtain ⟨d, more', rfl, hquote, hdigit, hname, -⟩ := exists_cons_of_mem_symbols hmem
  obtain rfl : c = d := by simpa using congrArg List.head? hchars
  simp [read, hquote, hdigit, hname, h]

/-- A word is read off the front exactly where the characters behind it do not make it longer. -/
theorem read_eq_token_iff {c : Char} {more : List Char} {kind : Kind} {n : Nat} :
    read c more = .token kind n ↔
      ∃ word rest, c :: more = word ++ rest ∧ word.length = n ∧ Word word kind ∧
        kind.EndsBefore rest := by
  constructor
  · intro h
    unfold read at h
    split at h
    · next hc =>
      subst hc
      exact word_of_readText h
    split at h
    · next hc => exact word_of_readNumber hc h
    split at h
    · next hc => exact word_of_readWord hc h
    split at h
    · next k m hsymbol =>
      obtain ⟨rfl, rfl⟩ : k = kind ∧ m = n := by simpa using h
      obtain ⟨word, rest, hchars, hn, hmem, hend⟩ := symbol?_eq_some_iff.1 hsymbol
      exact ⟨word, rest, hchars, hn, .symbol hmem, hend⟩
    · simp at h
  · rintro ⟨word, rest, hchars, rfl, hword, hend⟩
    -- Both kinds of numbers are told by their first digit.
    have hdigit : ∀ {digits tail : List Char}, Digits digits → c :: more = digits ++ tail →
        read c more = readNumber (digits ++ tail) := by
      intro digits tail hdigits h
      obtain ⟨d, digits, rfl, hc⟩ := hdigits.exists_cons
      obtain ⟨rfl, rfl⟩ : c = d ∧ more = digits ++ tail := by simpa using h
      have hquote : c ≠ '"' := by
        rintro rfl
        simp at hc
      simp only [read, if_neg hquote, hc, if_true, List.cons_append]
    cases hword with
    | int hdigits hfit => rw [hdigit hdigits hchars, readNumber_int hdigits hfit hend]
    | float hwhole hfraction hfinite =>
      rw [List.append_assoc] at hchars
      rw [hdigit hwhole hchars, ← List.append_assoc,
        readNumber_float hwhole hfraction hfinite hend]
    | @word d run hd hrun =>
      obtain ⟨rfl, rfl⟩ : c = d ∧ more = run ++ rest := by simpa using hchars
      have hquote : c ≠ '"' := by
        rintro rfl
        exact absurd hd (by decide)
      simp only [read, if_neg hquote, isDigit_of_startsName hd, hd, if_true]
      exact readWord_word hd hrun (endsBefore_word.1 hend)
    | @text written text hq =>
      obtain ⟨rfl, rfl⟩ : c = '"' ∧ more = written ++ rest := by simpa using hchars
      have hbody := textBody_eq_closed_iff.2 ⟨written, rest, rfl, rfl, hq⟩
      simp only [read, if_true, readText, hbody, List.length_cons]
    | symbol hmem =>
      exact read_symbol (symbol?_eq_some_iff.2 ⟨word, rest, hchars, rfl, hmem, hend⟩)

/-! ## Beginnings and ends of words -/

theorem isBlank_of_isDigit {c : Char} (h : c.isDigit = true) : isBlank c = false := by
  simp only [isBlank, Bool.or_eq_false_iff, beq_eq_false_iff_ne]
  refine ⟨⟨⟨?_, ?_⟩, ?_⟩, ?_⟩ <;> rintro rfl <;> simp at h

/-- A word is not empty, and does not begin with a separator. -/
theorem Word.exists_cons {word : List Char} {kind : Kind} (h : Word word kind) :
    ∃ c more, word = c :: more ∧ isBlank c = false := by
  cases h with
  | int hdigits =>
    obtain ⟨c, more, rfl, hc⟩ := hdigits.exists_cons
    exact ⟨c, more, rfl, isBlank_of_isDigit hc⟩
  | float hwhole =>
    obtain ⟨c, more, rfl, hc⟩ := hwhole.exists_cons
    exact ⟨c, _, rfl, isBlank_of_isDigit hc⟩
  | @word c more hc =>
    refine ⟨c, more, rfl, ?_⟩
    simp only [isBlank, Bool.or_eq_false_iff, beq_eq_false_iff_ne]
    refine ⟨⟨⟨?_, ?_⟩, ?_⟩, ?_⟩ <;> rintro rfl <;> exact absurd hc (by decide)
  | text => exact ⟨'"', _, rfl, rfl⟩
  | symbol hmem =>
    obtain ⟨c, more, rfl, -, -, -, hc⟩ := exists_cons_of_mem_symbols hmem
    exact ⟨c, more, rfl, hc⟩

/-- No word is the end of a line. -/
theorem Word.isFinish {word : List Char} {kind : Kind} (h : Word word kind) :
    kind.isFinish = false := by
  cases h with
  | int => rfl
  | float => rfl
  | word =>
    unfold Kind.ofKeyword?
    split <;> rfl
  | text => rfl
  | symbol hmem =>
    have hall : ∀ pair ∈ symbols, pair.2.isFinish = false := by decide
    exact hall _ hmem

/-- A word of letters and digits is a truth value, `not` or a name. -/
theorem Kind.ofKeyword?_cases (s : String) :
    (∃ b, (ofKeyword? s).getD (.name s) = .bool b) ∨ (ofKeyword? s).getD (.name s) = .not ∨
      (ofKeyword? s = none ∧ (ofKeyword? s).getD (.name s) = .name s) := by
  unfold Kind.ofKeyword?
  split
  · exact Or.inl ⟨true, rfl⟩
  · exact Or.inl ⟨false, rfl⟩
  · exact Or.inr (Or.inl rfl)
  · exact Or.inr (Or.inr ⟨rfl, rfl⟩)

/-- A name stands for itself: it is written with the characters of a name, and is no keyword. -/
theorem Word.eq_of_name {word : List Char} {name : String} (h : Word word (.name name)) :
    String.ofList word = name ∧ Kind.ofKeyword? name = none ∧
      ∃ c more, word = c :: more ∧ startsName c = true ∧ ∀ d ∈ more, continuesName d = true := by
  generalize hkind : Kind.name name = kind at h
  cases h with
  | int | float | text => simp at hkind
  | @word c more hc hmore =>
    rcases Kind.ofKeyword?_cases (String.ofList (c :: more)) with ⟨b, hb⟩ | hnot | ⟨hnone, hname⟩
    · cases hkind.trans hb
    · cases hkind.trans hnot
    · rw [hname, Kind.name.injEq] at hkind
      subst hkind
      exact ⟨rfl, hnone, c, more, rfl, hc, hmore⟩
  | symbol hmem =>
    subst hkind
    simp [symbols] at hmem

/-- A word stands for an integer, which is digits that fit; or for a finite double, which is digits
on both sides of a point; or for no number. -/
theorem Word.number_cases {word : List Char} {kind : Kind} (h : Word word kind) :
    (∃ n, kind = .int n ∧ Digits word ∧ Integer.fit? (Numeral.value word) = some n) ∨
      (∃ x whole fraction, kind = .float x ∧ word = whole ++ '.' :: fraction ∧ Digits whole ∧
        Digits fraction ∧ Binary64.ofDecimal (Decimal.ofParts whole fraction) = x ∧
        Binary64.isFinite x = true) ∨
      (∀ n, kind ≠ .int n) ∧ ∀ x, kind ≠ .float x := by
  cases h with
  | @int digits n hdigits hfit => exact Or.inl ⟨n, rfl, hdigits, hfit⟩
  | @float whole fraction hwhole hfraction hfinite =>
    exact Or.inr (Or.inl ⟨_, whole, fraction, rfl, rfl, hwhole, hfraction, rfl, hfinite⟩)
  | @word c more =>
    right
    right
    rcases Kind.ofKeyword?_cases (String.ofList (c :: more)) with ⟨b, hb⟩ | hnot | ⟨-, hname⟩
    · rw [hb]
      simp
    · rw [hnot]
      simp
    · rw [hname]
      simp
  | text => exact Or.inr (Or.inr ⟨by simp, by simp⟩)
  | symbol hmem =>
    right
    right
    constructor
    · rintro n rfl
      simp [symbols] at hmem
    · rintro x rfl
      simp [symbols] at hmem

theorem Word.isFinite_of_float {word : List Char} {x : Float} (h : Word word (.float x)) :
    Binary64.isFinite x = true := by
  rcases h.number_cases with ⟨n, hkind, -⟩ | ⟨y, -, -, hkind, -, -, -, -, hfinite⟩ | ⟨-, hno⟩
  · cases hkind
  · cases hkind
    exact hfinite
  · exact absurd rfl (hno x)

/-- A word ends before nothing at all. -/
theorem Kind.endsBefore_nil (kind : Kind) : kind.EndsBefore [] := by
  cases kind with
  | int => exact ⟨by simp, by simp⟩
  | float | name | bool | not | assign | less | greater => exact fun c hc => by simp at hc
  | text | plus | minus | star | slash | percent | equal | notEqual | lessEqual | greaterEqual
  | opening | closing | comma | finish => trivial

/-- Behind a word something may be cut off without making it longer. -/
theorem Kind.EndsBefore.cut {kind : Kind} {rest cut : List Char}
    (h : kind.EndsBefore (rest ++ cut)) : kind.EndsBefore rest := by
  cases rest with
  | nil => exact endsBefore_nil kind
  | cons c rest =>
    cases kind with
    | int =>
      refine ⟨h.1, ?_⟩
      rintro d more ⟨⟩
      exact h.2 d (more ++ cut) rfl
    | float | name | bool | not | assign | less | greater => exact h
    | text | plus | minus | star | slash | percent | equal | notEqual | lessEqual | greaterEqual
    | opening | closing | comma | finish => trivial

/-- A character before which every word ends. -/
def Separates (c : Char) : Prop :=
  continuesName c = false ∧ c ≠ '.' ∧ c ≠ '='

theorem Kind.endsBefore_of_separator {kind : Kind} {rest : List Char}
    (h : ∀ c ∈ rest.head?, Separates c) : kind.EndsBefore rest := by
  have hdigit : ∀ c ∈ rest.head?, c.isDigit = false := by
    intro c hc
    have := (h c hc).1
    simp only [continuesName, Char.isAlphanum, Bool.or_eq_false_iff] at this
    exact this.1.2
  cases kind with
  | int =>
    refine ⟨hdigit, ?_⟩
    rintro c more rfl
    exact absurd rfl (h '.' rfl).2.1
  | float => exact hdigit
  | name | bool | not => exact fun c hc => (h c hc).1
  | assign | less | greater => exact fun c hc => (h c hc).2.2
  | text | plus | minus | star | slash | percent | equal | notEqual | lessEqual | greaterEqual
  | opening | closing | comma | finish => trivial

end Reckoner.Token
