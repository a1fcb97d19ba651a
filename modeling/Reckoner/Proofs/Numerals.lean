import Reckoner.Builtin.Call
import Reckoner.Proofs.Parsing.Operand
import Reckoner.Proofs.Shortest
import Reckoner.Proofs.Tiling
import Reckoner.Proofs.UniqueDisplay

/-!
# Numbers as texts

A number becomes a text in two ways, written into a line or shown by `str`, and a text becomes a
number in two ways, as a token of a line or by `num`. The lexer and `num` do not accept the same
texts: `num` also takes a sign and an exponent, passes over more kinds of blanks, and gives a
double where the digits of an integer are out of range. But they never disagree
(`numerals_agree`): what is a number alone in a line is the same number to `num`, and what `str`
makes of a number is that number to `num`.

Digits, signs and points are no white space, so `num` sees a numeral as it was written
(`Text.trimChars_number`).
-/

set_option autoImplicit false

namespace Reckoner

open Token

/-! ## White space around a number -/

namespace Text

/-- A separator of a line is white space. -/
theorem whiteSpace_of_isBlank {c : Char} (h : isBlank c = true) : whiteSpace.contains c = true := by
  simp only [isBlank, Bool.or_eq_true, beq_iff_eq] at h
  rcases h with ((rfl | rfl) | rfl) | rfl <;> rfl

/-- No character of a number is white space. -/
theorem whiteSpace_of_inNumber {c : Char} (h : inNumber c = true) :
    whiteSpace.contains c = false := by
  rw [inNumber, Bool.or_eq_true] at h
  rcases h with h | h
  · -- The digits lie between the space and the first white space beyond ASCII.
    obtain ⟨hlow, hhigh⟩ := Char.isDigit_iff_toNat.1 h
    have hzero : '0'.toNat = 48 := rfl
    have hnine : '9'.toNat = 57 := rfl
    simp only [CodePoints.contains, whiteSpace, inRanges]
    rw [if_neg (by omega), if_neg (by omega), if_pos (by omega), decide_eq_false (by omega)]
  · simp only [List.contains_iff_mem, List.mem_cons, List.not_mem_nil, or_false] at h
    rcases h with rfl | rfl | rfl | rfl | rfl <;> rfl

/-- White space around a number is all that is taken off it. -/
theorem trimChars_number {before number behind : List Char}
    (hbefore : ∀ c ∈ before, whiteSpace.contains c = true)
    (hbehind : ∀ c ∈ behind, whiteSpace.contains c = true) (hne : number ≠ [])
    (hnumber : ∀ c ∈ number, inNumber c = true) :
    trimChars (before ++ (number ++ behind)) = number := by
  have hfirst : ∀ c ∈ (number ++ behind).head?, whiteSpace.contains c = false := by
    intro c hc
    rw [List.head?_append_of_ne_nil _ hne] at hc
    exact whiteSpace_of_inNumber (hnumber c (List.mem_of_mem_head? hc))
  have hlast : ∀ c ∈ number.reverse.head?, whiteSpace.contains c = false := by
    intro c hc
    exact whiteSpace_of_inNumber (hnumber c (List.mem_reverse.1 (List.mem_of_mem_head? hc)))
  have hbehind' : ∀ c ∈ behind.reverse, whiteSpace.contains c = true := fun c hc =>
    hbehind c (List.mem_reverse.1 hc)
  rw [trimChars, dropWhile_run hbefore hfirst, List.reverse_append, dropWhile_run hbehind' hlast,
    List.reverse_reverse]

end Text

/-! ## Numerals without a sign -/

namespace Numeral

/-- Digits stand for a whole number. -/
theorem whole?_digits {digits : List Char} (h : Digits digits) :
    whole? digits = some (value digits : Int) := by
  have hsplit : splitSign digits = (false, digits) := by
    apply splitSign_of_isDigit
    exact fun c hc => h.2 c (List.mem_of_mem_head? hc)
  simp only [whole?, hsplit, h.isEmpty_eq_false, List.all_eq_true.2 h.2, Bool.not_true,
    Bool.or_false, Bool.false_eq_true, if_false]

/-- What has a point in it is no whole number, whatever its sign. -/
theorem whole?_of_point {chars : List Char} (h : '.' ∈ chars) : whole? chars = none := by
  have hrest : '.' ∈ (splitSign chars).2 := by
    unfold splitSign
    split
    · simpa using h
    · simpa using h
    · exact h
  have hall : (splitSign chars).2.all Char.isDigit = false := by
    rw [List.all_eq_false]
    exact ⟨'.', hrest, by decide⟩
  simp only [whole?, hall, Bool.not_false, Bool.or_true, if_true]

theorem number?_of_point {chars : List Char} (h : '.' ∈ chars) :
    number? chars = (float? chars).map .float := by
  simp only [number?, integer?, whole?_of_point h, Option.bind_none]

/-- Digits on both sides of a point stand for the double that the lexer takes them for. -/
theorem float?_point {whole fraction : List Char} (hwhole : Digits whole)
    (hfraction : Digits fraction)
    (hfinite : Binary64.isFinite (Binary64.ofDecimal (Decimal.ofParts whole fraction)) = true) :
    float? (whole ++ '.' :: fraction) =
      some (Binary64.ofDecimal (Decimal.ofParts whole fraction)) := by
  have hsplit := splitSign_of_isDigit (head_isDigit hwhole ('.' :: fraction))
  have hread := decimal?_parts hwhole hfraction
  simp only [float?, hsplit, hread, hfinite, if_true, Bool.false_eq_true, if_false]

/-- A word that is a number in a line is the same number as a numeral. -/
theorem number?_of_word {word : List Char} {kind : Token.Kind} (hword : Word word kind) {v : Value}
    (hliteral : Parser.literal? kind = some v) {n : Number} (hn : v.number? = some n) :
    number? word = some n ∧ word ≠ [] ∧ ∀ c ∈ word, inNumber c = true := by
  rcases hword.number_cases with ⟨m, rfl, hdigits, hfit⟩ |
    ⟨x, whole, fraction, rfl, rfl, hwhole, hfraction, rfl, hfinite⟩ | ⟨hint, hfloat⟩
  · cases hliteral
    cases hn
    refine ⟨?_, hdigits.1, fun c hc => inNumber_of_isDigit (hdigits.2 c hc)⟩
    simp only [number?, integer?, whole?_digits hdigits, Option.bind_some, hfit]
  · cases hliteral
    cases hn
    refine ⟨?_, by simp, ?_⟩
    · rw [number?_of_point (by simp), float?_point hwhole hfraction hfinite]
      rfl
    · intro c hc
      rw [List.mem_append, List.mem_cons] at hc
      rcases hc with hc | rfl | hc
      · exact inNumber_of_isDigit (hwhole.2 c hc)
      · rfl
      · exact inNumber_of_isDigit (hfraction.2 c hc)
  · -- Every other literal is a text or a truth value.
    cases Parser.literal?_eq_some_iff.1 hliteral with
    | int m => exact absurd rfl (hint m)
    | float x => exact absurd rfl (hfloat x)
    | text s => cases hn
    | bool b => cases hn

/-- A finite number as it is shown is a numeral that stands for it, and only a double has a point.
-/
theorem number?_chars {n : Number} (hn : n.IsFinite) : number? n.chars = some n := by
  cases n with
  | int n =>
    change number? (Integer.chars n) = _
    simp only [number?, integer?_chars]
  | float x =>
    have hx := Value.allFinite_float.1 hn
    rw [number?_of_point ((Number.point_mem_iff hn).2 ⟨x, rfl⟩)]
    change (float? (Binary64.shownWith Decimal.positionalWithFraction x)).map _ = _
    rw [float?_shownWith hx]
    rfl

end Numeral

/-! ## Conversions -/

namespace Builtin

/-- A text that is a numeral with white space around it is converted to the number. -/
theorem call_num {s : String} {n : Number} {before number behind : List Char}
    (hs : s.toList = before ++ (number ++ behind))
    (hbefore : ∀ c ∈ before, Text.whiteSpace.contains c = true)
    (hbehind : ∀ c ∈ behind, Text.whiteSpace.contains c = true) (hne : number ≠ [])
    (hnumber : ∀ c ∈ number, inNumber c = true) (hread : Numeral.number? number = some n) :
    Builtin.num.call [.text s] = .ok n.toValue := by
  have htrim : Text.trimChars s.toList = number := by
    rw [hs]
    exact Text.trimChars_number hbefore hbehind hne hnumber
  have happly : Builtin.num.call [.text s] = toNumber (.text s) := rfl
  rw [happly]
  simp only [toNumber, Value.number?, textOf, htrim, hread]

/-- A number alone in a line, with separators around it, is converted to its value. -/
theorem call_num_of_tokenize {s : String} {t q : Token} (h : tokenize s = .ok [t, q]) {v : Value}
    (hliteral : Parser.literal? t.kind = some v) {n : Number} (hn : v.number? = some n) :
    Builtin.num.call [.text s] = .ok v := by
  have hlexes := tokenize_eq_ok_iff.1 h
  generalize hchars : s.toList = chars at hlexes
  cases hlexes with
  | @token blanks word rest _ start kind _ hblanks hword _ _ hrest =>
    cases hrest with
    | token _ _ _ _ hmore => exact nomatch hmore
    | finish hbehind =>
      obtain ⟨hread, hne, hall⟩ := Numeral.number?_of_word hword hliteral hn
      have hv : v = n.toValue := by
        cases v <;> cases hn <;> rfl
      rw [hv]
      exact call_num hchars (fun c hc => Text.whiteSpace_of_isBlank (hblanks c hc))
        (fun c hc => Text.whiteSpace_of_isBlank (hbehind c hc)) hne hall hread

/-- What is shown of a finite number is converted back to it. -/
theorem call_num_chars {n : Number} (hn : n.IsFinite) :
    Builtin.num.call [.text (String.ofList n.chars)] = .ok n.toValue := by
  have hne : n.chars ≠ [] := by
    obtain ⟨c, more, hchars, -⟩ := Value.itemChars_opening hn
    change n.toValue.itemChars ≠ []
    rw [hchars]
    exact List.cons_ne_nil c more
  have hwhole : (String.ofList n.chars).toList = [] ++ (n.chars ++ []) := by simp
  exact call_num hwhole (by simp) (by simp) hne (fun c hc => Number.inNumber_of_mem hn hc)
    (Numeral.number?_chars hn)

end Builtin

/-! ## Lines of digits -/

/-- Digits whose value is in range are one integer token. -/
theorem tokenize_digits {line : String} (h : Digits line.toList) {n : Int64}
    (hfit : Integer.fit? (Numeral.value line.toList) = some n) :
    tokenize line =
      .ok [⟨.int n, line, ⟨0, line.utf8ByteSize⟩⟩, finishAt line.utf8ByteSize] := by
  have hword := (Word.int h hfit).tokenize
  rw [String.ofList_toList, byteLength_toList] at hword
  rw [hword]
  simp only [ofWord, Nat.zero_add, String.ofList_toList, byteLength_toList]

/-- Digits whose value is out of range are a fault, and all of them are to blame. -/
theorem tokenize_digits_out {line : String} (h : Digits line.toList)
    (hfit : Integer.fit? (Numeral.value line.toList) = none) :
    tokenize line = .error ⟨.numberOutOfRange line, ⟨0, line.utf8ByteSize⟩⟩ := by
  obtain ⟨c, more, hline, hc⟩ := h.exists_cons
  have hread : read c more = .fault (.numberOutOfRange line) 0 line.toList.length := by
    have hrun : line.toList.takeWhile Char.isDigit = line.toList := List.takeWhile_eq_self_iff.2 h.2
    have hend : line.toList.dropWhile Char.isDigit = [] := List.dropWhile_eq_nil_iff.2 h.2
    have hquote : c ≠ '"' := by
      rintro rfl
      exact absurd hc (by decide)
    rw [Token.read, if_neg hquote, if_pos hc, ← hline]
    simp only [readNumber, hrun, hend, readInteger, hfit, String.ofList_toList]
  have hnext := @Lexer.next_read [] more c 0 (by simp [Blank]) (isBlank_of_isDigit hc)
  rw [hread, List.nil_append, ← hline] at hnext
  rw [tokenize, Lexer.ofLine, Lexer.tokens_of_fault hnext]
  simp only [Lexer.spanOf, List.take_zero, List.take_length, byteLength, byteLength_toList,
    Nat.zero_add]

/-- **Numerals agree.** A number that stands alone in a line, with separators around it, is the
number that `num` makes of the line, an integer or a double alike. A line of digits is an integer
exactly if their value is at most the greatest one; if not, the number is out of range, from the
first digit to the last. And `num` takes what `str` makes of an integer, or of a finite double,
for that number; what `str` makes of a double stands for no whole number. -/
theorem numerals_agree :
    (∀ (text : String) (t q : Token) (v : Value), tokenize text = .ok [t, q] →
      Parser.literal? t.kind = some v → v.number?.isSome →
      Builtin.num.call [.text text] = .ok v) ∧
    (∀ line : String, line ≠ "" → (∀ c ∈ line.toList, c.isDigit = true) →
      (Nat.ofDigitChars 10 line.toList 0 ≤ 2 ^ 63 - 1 →
        ∃ n : Int64, n.toInt = Nat.ofDigitChars 10 line.toList 0 ∧
          tokenize line =
            .ok [⟨.int n, line, ⟨0, line.utf8ByteSize⟩⟩, finishAt line.utf8ByteSize]) ∧
      (2 ^ 63 - 1 < Nat.ofDigitChars 10 line.toList 0 →
        tokenize line = .error ⟨.numberOutOfRange line, ⟨0, line.utf8ByteSize⟩⟩)) ∧
    (∀ n : Int64, ∃ s, Builtin.str.call [.int n] = .ok (.text s) ∧
      Builtin.num.call [.text s] = .ok (.int n)) ∧
    ∀ x : Float, Binary64.isFinite x = true → ∃ s, Builtin.str.call [.float x] = .ok (.text s) ∧
      Numeral.whole? s.toList = none ∧ Builtin.num.call [.text s] = .ok (.float x) := by
  refine ⟨?_, ?_, ?_, ?_⟩
  · intro text t q v htokens hliteral hnumber
    obtain ⟨n, hn⟩ := Option.isSome_iff_exists.1 hnumber
    exact Builtin.call_num_of_tokenize htokens hliteral hn
  · intro line hne hall
    have hdigits : Digits line.toList := ⟨by simpa using hne, hall⟩
    have hbound : Integer.greatest = (2 ^ 63 - 1 : Nat) := rfl
    constructor
    · intro hle
      obtain ⟨n, hfit, hn⟩ := @Integer.exists_fit (Numeral.value line.toList)
        (Int.le_trans (by decide) (Int.natCast_nonneg _)) (hbound ▸ Int.ofNat_le.2 hle)
      exact ⟨n, hn, tokenize_digits hdigits hfit⟩
    · intro hlt
      apply tokenize_digits_out hdigits
      rw [Integer.fit?_eq_none_iff, hbound]
      rintro ⟨-, hle⟩
      exact absurd (Int.ofNat_le.1 hle) (Nat.not_le.2 hlt)
  · intro n
    exact ⟨String.ofList (Number.int n).chars, rfl, Builtin.call_num_chars (Value.allFinite_int n)⟩
  · intro x hx
    have hfinite : (Number.float x).IsFinite := Value.allFinite_float.2 hx
    refine ⟨String.ofList (Number.float x).chars, rfl, ?_, Builtin.call_num_chars hfinite⟩
    apply Numeral.whole?_of_point
    rw [String.toList_ofList]
    exact (Number.point_mem_iff hfinite).2 ⟨x, rfl⟩

/-- Two and a half with a zero too many on both sides, and separators around it. -/
def paddedDecimal : String :=
  String.ofList ['\t', '0', '2', '.', '5', '0', '\r', '\n']

/-- The greatest integer behind zeros, and the number that follows it. -/
def greatestDigits : String :=
  String.ofList ("00".toList ++ Nat.toDigits 10 9223372036854775807)

def nextDigits : String :=
  String.ofList (Nat.toDigits 10 9223372036854775808)

theorem tokenize_paddedDecimal :
    tokenize paddedDecimal = .ok [⟨.float (Float.ofBits 0x4004000000000000), "02.50", ⟨1, 6⟩⟩,
      finishAt 8] := by
  have hvalue : Binary64.ofDecimal (Decimal.ofParts ['0', '2'] ['5', '0']) =
      Float.ofBits 0x4004000000000000 := by decide +kernel
  have hword : Word ['0', '2', '.', '5', '0'] (.float (Float.ofBits 0x4004000000000000)) := by
    rw [← hvalue]
    exact @Word.float ['0', '2'] ['5', '0'] ⟨by simp, by simp⟩ ⟨by simp, by simp⟩
      (by rw [hvalue]; decide +kernel)
  have hfinish : Lexes ['\r', '\n'] 6 [finishAt 8] := @Lexes.finish ['\r', '\n'] 6 (by decide)
  have hend : (Token.Kind.float (Float.ofBits 0x4004000000000000)).EndsBefore ['\r', '\n'] := by
    rintro c ⟨⟩
    rfl
  rw [tokenize_eq_ok_iff]
  exact @Lexes.token ['\t'] _ _ 0 1 _ _ (by decide) hword hend rfl hfinish

/-- A double in a line, the greatest integer behind zeros and the number that follows it, the least
integer, and a double that is shown with twenty-two digits before its point. -/
theorem numerals_agree_paddedDecimal :
    Builtin.num.call [.text paddedDecimal] = .ok (.float (Float.ofBits 0x4004000000000000)) ∧
    (∃ n : Int64, n.toInt = 9223372036854775807 ∧
      tokenize greatestDigits = .ok [⟨.int n, greatestDigits, ⟨0, 21⟩⟩, finishAt 21]) ∧
    tokenize nextDigits = .error ⟨.numberOutOfRange nextDigits, ⟨0, 19⟩⟩ ∧
    (∃ s, Builtin.str.call [.int Int64.minValue] = .ok (.text s) ∧
      Builtin.num.call [.text s] = .ok (.int Int64.minValue)) ∧
    ∃ s, Builtin.str.call [.float (Float.ofBits 0x444b1ae4d6e2ef50)] = .ok (.text s) ∧
      Builtin.num.call [.text s] = .ok (.float (Float.ofBits 0x444b1ae4d6e2ef50)) := by
  obtain ⟨htoken, hdigits, hint, hfloat⟩ := numerals_agree
  refine ⟨?_, ?_, ?_, hint Int64.minValue, ?_⟩
  · exact htoken _ _ _ _ tokenize_paddedDecimal rfl rfl
  · exact (hdigits greatestDigits (by decide) (List.all_eq_true.1 (by decide))).1 (by decide)
  · exact (hdigits nextDigits (by decide) (List.all_eq_true.1 (by decide))).2 (by decide)
  · obtain ⟨s, hs, -, hnum⟩ := hfloat (Float.ofBits 0x444b1ae4d6e2ef50) (by decide +kernel)
    exact ⟨s, hs, hnum⟩

end Reckoner
