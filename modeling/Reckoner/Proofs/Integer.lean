import Reckoner.Numeral

/-!
# Integers and their digits

A whole number in range fits exactly one integer, the one with its value (`fit?_eq_some_iff`). The
quotient of two integers is out of range in one case only (`quotient?_eq_none_iff`). The digits of a
natural number have its value (`value_toDigits`), so an integer as it is written reads back
(`integer?_chars`).
-/

set_option autoImplicit false

namespace Reckoner

namespace Integer

theorem toInt_mem_range (n : Int64) : least ≤ n.toInt ∧ n.toInt ≤ greatest := by
  have hlow := n.le_toInt
  have hhigh := n.toInt_lt
  simp only [least, greatest]
  omega

/-- The integer that a whole number fits is the one with its value. -/
theorem fit?_eq_some_iff {n : Int} {m : Int64} : fit? n = some m ↔ m.toInt = n := by
  unfold fit?
  constructor
  · intro h
    split at h
    · next hrange =>
      obtain rfl : Int64.ofInt n = m := by simpa using h
      simp only [least, greatest] at hrange
      apply Int64.toInt_ofInt_of_le <;> omega
    · simp at h
  · rintro rfl
    rw [if_pos (toInt_mem_range m), Int64.ofInt_toInt]

/-- Every whole number in range fits. -/
theorem exists_fit {n : Int} (hlow : least ≤ n) (hhigh : n ≤ greatest) :
    ∃ m, fit? n = some m ∧ m.toInt = n := by
  have h : fit? n = some (Int64.ofInt n) := if_pos ⟨hlow, hhigh⟩
  exact ⟨_, h, fit?_eq_some_iff.1 h⟩

/-- The negative of an integer is absent only for the least one. -/
theorem neg?_eq_some_iff {m n : Int64} : neg? m = some n ↔ n.toInt = -m.toInt :=
  fit?_eq_some_iff

theorem fit?_eq_none_iff {n : Int} : fit? n = none ↔ ¬ (least ≤ n ∧ n ≤ greatest) := by
  simp [fit?]

/-- The quotient toward zero of two integers is out of range only where the least integer is divided
by minus one. -/
theorem quotient?_eq_none_iff {a b : Int64} (hb : b.toInt ≠ 0) :
    quotient? a b = none ↔ a.toInt = least ∧ b.toInt = -1 := by
  obtain ⟨hlow, hhigh⟩ := toInt_mem_range a
  have habs : (a.toInt.tdiv b.toInt).natAbs = a.toInt.natAbs / b.toInt.natAbs := Int.natAbs_tdiv ..
  rw [quotient?, fit?_eq_none_iff]
  constructor
  · intro hrange
    -- Only a divisor of absolute value one leaves the quotient as large as the dividend.
    by_cases hone : b.toInt.natAbs = 1
    · rw [hone, Nat.div_one] at habs
      have hsign : b.toInt = 1 ∨ b.toInt = -1 := by omega
      rcases hsign with hsign | hsign
      · rw [hsign, Int.tdiv_one] at hrange
        exact absurd ⟨hlow, hhigh⟩ hrange
      · unfold least greatest at *
        omega
    · have hhalf : a.toInt.natAbs / b.toInt.natAbs ≤ a.toInt.natAbs / 2 :=
        Nat.div_le_div_left (by omega) (by decide)
      unfold least greatest at *
      omega
  · rintro ⟨ha, hb⟩
    rw [ha, hb]
    decide

theorem exists_quotient {a b : Int64} (hb : b.toInt ≠ 0)
    (h : ¬ (a.toInt = least ∧ b.toInt = -1)) :
    ∃ q, quotient? a b = some q ∧ q.toInt = a.toInt.tdiv b.toInt := by
  obtain ⟨q, hq⟩ := Option.ne_none_iff_exists'.1 (mt (quotient?_eq_none_iff hb).1 h)
  exact ⟨q, hq, fit?_eq_some_iff.1 hq⟩

/-- An integer is written as digits, perhaps behind a minus sign. -/
theorem chars_parts (n : Int64) :
    ∃ sign ∈ [[], ['-']], chars n = sign ++ Nat.toDigits 10 n.toInt.natAbs := by
  unfold chars
  split
  · exact ⟨['-'], by simp, rfl⟩
  · exact ⟨[], by simp, rfl⟩

theorem eq_minus_of_mem_sign {sign : List Char} (h : sign ∈ [[], ['-']]) {c : Char}
    (hc : c ∈ sign) : c = '-' := by
  simp only [List.mem_cons, List.not_mem_nil, or_false] at h
  rcases h with rfl | rfl
  · simp at hc
  · exact List.mem_singleton.1 hc

theorem mem_chars {n : Int64} {c : Char} (h : c ∈ chars n) : c = '-' ∨ c.isDigit = true := by
  obtain ⟨sign, hsign, hchars⟩ := chars_parts n
  rw [hchars, List.mem_append] at h
  rcases h with h | h
  · exact Or.inl (eq_minus_of_mem_sign hsign h)
  · exact Or.inr (Nat.isDigit_of_mem_toDigits (by decide) (by decide) h)

end Integer

namespace Numeral

theorem value_toDigits (n : Nat) : value (Nat.toDigits 10 n) = n :=
  Nat.ofDigitChars_toDigits (by decide) (by decide)

/-- There is no sign before a digit. -/
theorem splitSign_of_isDigit {chars : List Char} (h : ∀ c ∈ chars.head?, c.isDigit = true) :
    splitSign chars = (false, chars) := by
  unfold splitSign
  split
  · exact absurd (h '-' rfl) (by decide)
  · exact absurd (h '+' rfl) (by decide)
  · rfl

theorem splitSign_toDigits (n : Nat) :
    splitSign (Nat.toDigits 10 n) = (false, Nat.toDigits 10 n) := by
  apply splitSign_of_isDigit
  intro c hc
  exact Nat.isDigit_of_mem_toDigits (by decide) (by decide) (List.mem_of_mem_head? hc)

/-- An integer as it is written is a numeral that stands for it. -/
theorem integer?_chars (n : Int64) : integer? (Integer.chars n) = some n := by
  have hne : (Nat.toDigits 10 n.toInt.natAbs).isEmpty = false :=
    List.isEmpty_eq_false_iff.2 Nat.toDigits_ne_nil
  have hall : (Nat.toDigits 10 n.toInt.natAbs).all Char.isDigit = true :=
    List.all_eq_true.2 fun c hc => Nat.isDigit_of_mem_toDigits (by decide) (by decide) hc
  have hwhole : whole? (Integer.chars n) = some n.toInt := by
    unfold Integer.chars
    split
    · have habs : -(n.toInt.natAbs : Int) = n.toInt := by omega
      simp only [whole?, splitSign, hne, hall, value_toDigits, habs, Bool.not_true, Bool.or_false,
        Bool.false_eq_true, if_false, if_true]
    · have habs : (n.toInt.natAbs : Int) = n.toInt := by omega
      simp only [whole?, splitSign_toDigits, hne, hall, value_toDigits, habs, Bool.not_true,
        Bool.or_false, Bool.false_eq_true, if_false]
  rw [integer?, hwhole, Option.bind_some]
  exact Integer.fit?_eq_some_iff.2 rfl

end Numeral

end Reckoner
