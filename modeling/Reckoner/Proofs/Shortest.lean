import Reckoner.Json
import Reckoner.Proofs.Nearest
import Reckoner.Value.Display

/-!
# Shown doubles read back

The shortest decimal of a finite double is rounded back to it (`nearestMagnitude_shortest`): a
decimal of few digits is taken only if it is, and all digits together are the exact value.

So a finite double as it is shown is a numeral that stands for it (`float?_shownWith`), and so is
the double as it is written in JSON (`float?_floatChars`). Both have digits on the outside, and
differ from an integer by a point or an exponent.
-/

set_option autoImplicit false

namespace Reckoner

open Token

namespace Binary64

/-! ## Shortest decimals -/

/-- A decimal of some number of digits is taken only if it reads back. -/
theorem nearestMagnitude_withDigits {tie : Tie} {m n : Nat} {q : ℚ} {d : Decimal}
    (h : withDigits tie m q n = some d) : nearestMagnitude d.toRat = m := by
  have hreads : ∀ {d : Decimal}, readsAs m d = true → nearestMagnitude d.toRat = m := beq_iff_eq.1
  simp only [withDigits] at h
  split at h
  · next hbelow habove =>
    -- Both neighbours read back, so it does not matter which is the nearer one.
    rw [Option.some.injEq] at h
    rw [← h]
    unfold nearer
    split
    · exact hreads hbelow
    · split
      · exact hreads habove
      · cases tie with
        | up => exact hreads habove
        | even =>
          simp only
          split
          · exact hreads hbelow
          · exact hreads habove
  · next hbelow _ =>
    rw [Option.some.injEq] at h
    exact h ▸ hreads hbelow
  · next _ habove =>
    rw [Option.some.injEq] at h
    exact h ▸ hreads habove
  · simp at h

theorem toRat_exactDecimal (significand : Nat) (e : Int) :
    (exactDecimal significand e).toRat = (significand : ℚ) * power 2 e := by
  rw [Decimal.toRat_eq, power_eq_zpow]
  cases e with
  | ofNat k => simp [exactDecimal]
  | negSucc k =>
    have hten : (10 : ℚ) ^ (k + 1) = 2 ^ (k + 1) * 5 ^ (k + 1) := by
      rw [← mul_pow]
      norm_num
    rw [exactDecimal, zpow_negSucc, zpow_negSucc, Nat.pow_eq]
    push_cast
    rw [hten]
    field_simp

/-- The shortest decimal of a finite double reads back as the double. -/
theorem nearestMagnitude_shortest (tie : Tie) {x : Float} (h : isFinite x = true) :
    nearestMagnitude (shortest tie x).toRat = magnitude x := by
  simp only [shortest]
  split
  · next hzero =>
    rw [hzero, Decimal.toRat_eq, Nat.cast_zero, zero_mul, nearestMagnitude_zero]
  · rw [Decimal.toRat_reduce]
    cases hfound : (List.range 17).findSome? fun n =>
        withDigits tie (magnitude x) (absRat x) (n + 1) with
    | none =>
      rw [Option.getD_none, toRat_exactDecimal]
      exact nearestMagnitude_significand (of_decide_eq_true h)
    | some d =>
      obtain ⟨n, -, hd⟩ := List.exists_of_findSome?_eq_some hfound
      exact nearestMagnitude_withDigits hd

/-- The shortest decimal of a double other than zero is not zero. -/
theorem coefficient_shortest_ne_zero (tie : Tie) {x : Float} (h : isFinite x = true)
    (hne : magnitude x ≠ 0) : (shortest tie x).coefficient ≠ 0 := by
  apply Decimal.coefficient_ne_zero
  intro hzero
  apply hne
  rw [← nearestMagnitude_shortest tie h, hzero, nearestMagnitude_zero]

/-- Zero is written with the exponent zero. -/
theorem exponent_shortest_of_zero (tie : Tie) {x : Float} (h : isFinite x = true)
    (hzero : (shortest tie x).coefficient = 0) : (shortest tie x).exponent = 0 := by
  by_cases hm : magnitude x = 0
  · simp only [shortest, if_pos hm]
  · exact absurd hzero (coefficient_shortest_ne_zero tie h hm)

/-- The first digit of a double other than zero stands at most 400 places from the point. -/
theorem leading_shortest (tie : Tie) {x : Float} (h : isFinite x = true) (hne : magnitude x ≠ 0) :
    (shortest tie x).leading.natAbs ≤ 400 := by
  obtain ⟨hlow, hhigh⟩ := Decimal.leading_bounds (coefficient_shortest_ne_zero tie h hne)
  have hfinite : magnitude x < infinityMagnitude := of_decide_eq_true h
  have hreads := nearestMagnitude_shortest tie h
  have hten : (1 : ℚ) ≤ 10 := by norm_num
  -- A decimal beyond these places is rounded to zero or to infinity.
  have hle : (shortest tie x).leading ≤ 400 := by
    by_contra hlarge
    have := nearestMagnitude_of_large ((zpow_le_zpow_right₀ hten (not_le.1 hlarge).le).trans hlow)
    omega
  have hge : -400 ≤ (shortest tie x).leading := by
    by_contra hsmall
    have := nearestMagnitude_of_small (Decimal.toRat_nonneg _)
      (hhigh.trans_le (zpow_le_zpow_right₀ hten (not_le.1 hsmall)))
    omega
  omega

/-! ## Their written forms -/

theorem signChars_mem (x : Float) : signChars x ∈ [[], ['-']] := by
  unfold signChars
  split <;> simp

/-- A finite double is shown with digits on both sides of a point, behind its sign. -/
theorem shownWith_parts {x : Float} (h : isFinite x = true) :
    ∃ whole fraction, shownWith Decimal.positionalWithFraction x =
        signChars x ++ (whole ++ '.' :: fraction) ∧
      Decimal.Pointed whole fraction (shortest .up x).toRat := by
  have hfinite : magnitude x < infinityMagnitude := of_decide_eq_true h
  have hnumber : isNaN x = false := decide_eq_false (Nat.not_lt.2 hfinite.le)
  obtain ⟨whole, fraction, hchars, hparts⟩ :=
    Decimal.positionalWithFraction_parts (exponent_shortest_of_zero .up h)
  refine ⟨whole, fraction, ?_, hparts⟩
  rw [shownWith, hnumber, if_neg Bool.false_ne_true, if_pos h, hchars]

theorem floatChars_eq {x : Float} (h : isFinite x = true) :
    Json.floatChars x = signChars x ++ Json.decimalChars (shortest .even x) := by
  simp only [Json.floatChars, if_pos h, signChars]
  split <;> rfl

/-- Zero is written in the positional form. -/
theorem magnitude_ne_zero_of_leading {tie : Tie} {x : Float}
    (h : ¬ (-5 ≤ (shortest tie x).leading ∧ (shortest tie x).leading ≤ 15)) :
    magnitude x ≠ 0 := by
  intro hzero
  apply h
  simp only [shortest, if_pos hzero]
  decide

end Binary64

/-! ## Numerals of doubles -/

namespace Numeral

open Binary64

/-- A sign before a numeral whose value is rounded to the magnitude of a double. -/
theorem float?_signed {x : Float} (hx : isFinite x = true) {unsigned : List Char} {d : Decimal}
    (hfirst : ∀ c ∈ unsigned.head?, c.isDigit = true) (hread : decimal? unsigned = some d)
    (hreads : nearestMagnitude d.toRat = magnitude x) :
    float? (signChars x ++ unsigned) = some x := by
  have hfinite : magnitude x < infinityMagnitude := of_decide_eq_true hx
  have hsize : ofDecimal d = absolute x := by
    rw [ofDecimal_eq, hreads]
    rfl
  have hsplit : splitSign (signChars x ++ unsigned) = (isNegative x, unsigned) := by
    unfold signChars
    cases isNegative x with
    | true => rfl
    | false => exact splitSign_of_isDigit hfirst
  have hsigned : (if isNegative x then negate (absolute x) else absolute x) = x := by
    conv_rhs => rw [← ofMagnitude_magnitude hx]
    cases isNegative x with
    | true =>
      rw [if_pos rfl, negate, absolute, isNegative_ofMagnitude _ hfinite,
        magnitude_ofMagnitude _ hfinite]
      rfl
    | false => rfl
  simp only [float?, hsplit, hread, hsize, if_pos (isFinite_absolute hx), hsigned]

theorem head_isDigit {whole : List Char} (h : Digits whole) (rest : List Char) :
    ∀ c ∈ (whole ++ rest).head?, c.isDigit = true := by
  intro c hc
  rw [List.head?_append_of_ne_nil _ h.1] at hc
  exact h.2 c (List.mem_of_mem_head? hc)

/-- A finite double as it is shown is a numeral that stands for it. -/
theorem float?_shownWith {x : Float} (h : isFinite x = true) :
    float? (shownWith Decimal.positionalWithFraction x) = some x := by
  obtain ⟨whole, fraction, hchars, hparts⟩ := shownWith_parts h
  have hread := decimal?_parts hparts.digits hparts.decimals
  rw [hchars]
  apply float?_signed h (head_isDigit hparts.digits _) hread
  rw [hparts.value, nearestMagnitude_shortest .up h]

/-- A finite double as it is written in JSON is a numeral that stands for it. -/
theorem float?_floatChars {x : Float} (h : isFinite x = true) :
    float? (Json.floatChars x) = some x := by
  have hreads := nearestMagnitude_shortest .even h
  rw [floatChars_eq h, Json.decimalChars]
  split
  · obtain ⟨whole, fraction, hchars, hparts⟩ :=
      Decimal.positionalWithFraction_parts (exponent_shortest_of_zero .even h)
    rw [hchars]
    apply float?_signed h (head_isDigit hparts.digits _)
      (decimal?_parts hparts.digits hparts.decimals)
    rw [hparts.value, hreads]
  · next hleading =>
    have hne : magnitude x ≠ 0 := magnitude_ne_zero_of_leading hleading
    have hcoefficient := coefficient_shortest_ne_zero .even h hne
    obtain ⟨first, more, hdigits, -, hchars⟩ := Decimal.scientific_parts hcoefficient
    have hfirst : ∀ c ∈ (shortest .even x).scientific.head?, c.isDigit = true := by
      rw [hchars]
      rintro c ⟨⟩
      apply (digits_toDigits (shortest .even x).coefficient).2
      change first ∈ (shortest .even x).digits
      rw [hdigits]
      exact List.mem_cons_self
    have hbound : (shortest .even x).leading.natAbs < exponentBound :=
      Nat.lt_of_le_of_lt (leading_shortest .even h hne) (by decide)
    exact float?_signed h hfirst (decimal?_scientific hcoefficient hbound) hreads

end Numeral

end Reckoner
