import Mathlib.Algebra.Order.Field.Power
import Mathlib.Algebra.Order.Ring.Rat
import Mathlib.Data.List.Basic
import Mathlib.Tactic.Positivity
import Mathlib.Tactic.Ring
import Reckoner.Decimal.Layout
import Reckoner.Proofs.Integer
import Reckoner.Proofs.Lexing.Word

/-!
# Decimals and their written forms

The value of a decimal lies between the powers of ten that its digits say
(`Decimal.leading_bounds`), and so do the cruder bounds that are read off the bits of the
coefficient (`Decimal.reachedPower_le`, `Decimal.lt_unreachedPower`).

Both written forms read back. The positional form with a fraction has digits on both sides of its
point that stand for the same number (`Decimal.positionalWithFraction_parts`), and the scientific
form stands for the very same decimal, as long as all digits of its exponent count
(`Numeral.decimal?_scientific`).
-/

set_option autoImplicit false

namespace Reckoner

open Token

theorem power_eq_zpow (base : Nat) (e : Int) : power base e = (base : ℚ) ^ e := by
  cases e with
  | ofNat k =>
    change mkRat (Nat.pow base k : Nat) 1 = (base : ℚ) ^ (k : ℤ)
    rw [Rat.mkRat_one, Int.cast_natCast, zpow_natCast]
    exact Nat.cast_pow base k
  | negSucc k =>
    change mkRat 1 (Nat.pow base (k + 1)) = (base : ℚ) ^ Int.negSucc k
    rw [Rat.mkRat_eq_div, zpow_negSucc, Int.cast_one, one_div]
    congr 1
    exact Nat.cast_pow base (k + 1)

/-! ## Values -/

namespace Decimal

theorem toRat_eq (d : Decimal) : d.toRat = (d.coefficient : ℚ) * 10 ^ d.exponent := by
  rw [toRat, power_eq_zpow]
  rfl

theorem toRat_nonneg (d : Decimal) : 0 ≤ d.toRat := by
  rw [toRat_eq]
  positivity

theorem coefficient_ne_zero {d : Decimal} (h : d.toRat ≠ 0) : d.coefficient ≠ 0 := by
  intro hzero
  apply h
  rw [toRat_eq, hzero, Nat.cast_zero, zero_mul]

/-- A power of ten may be moved from the coefficient into the exponent. -/
theorem toRat_shift (coefficient : Nat) (exponent : Int) (n : Nat) :
    toRat ⟨coefficient * 10 ^ n, exponent⟩ = toRat ⟨coefficient, exponent + n⟩ := by
  rw [toRat_eq, toRat_eq, zpow_add₀ (by norm_num), zpow_natCast]
  push_cast
  ring

theorem le_toRat {d : Decimal} {n : Nat} (h : 10 ^ n ≤ d.coefficient) :
    (10 : ℚ) ^ (d.exponent + n) ≤ d.toRat := by
  have hcast : (10 : ℚ) ^ n ≤ d.coefficient := by exact_mod_cast h
  rw [toRat_eq, zpow_add₀ (by norm_num), zpow_natCast, mul_comm]
  exact mul_le_mul_of_nonneg_right hcast (by positivity)

theorem toRat_lt {d : Decimal} {n : Nat} (h : d.coefficient < 10 ^ n) :
    d.toRat < (10 : ℚ) ^ (d.exponent + n) := by
  have hcast : (d.coefficient : ℚ) < 10 ^ n := by exact_mod_cast h
  rw [toRat_eq, zpow_add₀ (by norm_num), zpow_natCast, mul_comm]
  exact mul_lt_mul_of_pos_left hcast (by positivity)

/-- Reducing a decimal does not change its value. -/
theorem toRat_reduce (d : Decimal) : d.reduce.toRat = d.toRat := by
  have hfrom : ∀ (coefficient : Nat) (exponent : Int),
      (reduceFrom coefficient exponent).toRat = toRat ⟨coefficient, exponent⟩ := by
    intro coefficient exponent
    fun_induction reduceFrom coefficient exponent with
    | case1 coefficient exponent h ih =>
      have hten : coefficient = coefficient / 10 * 10 ^ 1 := by omega
      rw [ih]
      conv_rhs => rw [hten]
      exact (toRat_shift _ _ 1).symm
    | case2 => rfl
  exact hfrom d.coefficient d.exponent

theorem digits_bounds {d : Decimal} (h : d.coefficient ≠ 0) :
    10 ^ (d.digits.length - 1) ≤ d.coefficient ∧ d.coefficient < 10 ^ d.digits.length := by
  have hlength : 0 < d.digits.length := Nat.length_toDigits_pos
  have hle : ∀ {k : Nat}, 0 < k → (d.digits.length ≤ k ↔ d.coefficient < 10 ^ k) := fun hk =>
    Nat.length_toDigits_le_iff (by decide) hk
  refine ⟨?_, (hle hlength).1 (Nat.le_refl _)⟩
  by_contra hlow
  by_cases hone : d.digits.length = 1
  · rw [hone] at hlow
    omega
  · -- With fewer digits the length would be smaller.
    have hshorter := (hle (by omega)).2 (Nat.not_le.1 hlow)
    omega

/-- The first digit of a decimal stands at its leading place. -/
theorem leading_bounds {d : Decimal} (h : d.coefficient ≠ 0) :
    (10 : ℚ) ^ d.leading ≤ d.toRat ∧ d.toRat < 10 ^ (d.leading + 1) := by
  have hlength : 0 < d.digits.length := Nat.length_toDigits_pos
  have hbounds := digits_bounds h
  have hfirst : d.leading = d.exponent + (d.digits.length - 1 : Nat) := by
    unfold leading
    omega
  have hnext : d.leading + 1 = d.exponent + d.digits.length := by
    unfold leading
    omega
  constructor
  · rw [hfirst]
    exact le_toRat hbounds.1
  · rw [hnext]
    exact toRat_lt hbounds.2

theorem reachedPower_le {d : Decimal} (h : d.coefficient ≠ 0) :
    (10 : ℚ) ^ d.reachedPower ≤ d.toRat := by
  apply le_toRat
  calc 10 ^ (d.coefficient.log2 / 10 * 3) = (10 ^ 3) ^ (d.coefficient.log2 / 10) := by
        rw [mul_comm, pow_mul]
    _ ≤ (2 ^ 10) ^ (d.coefficient.log2 / 10) := Nat.pow_le_pow_left (by decide) _
    _ = 2 ^ (10 * (d.coefficient.log2 / 10)) := by rw [pow_mul]
    _ ≤ 2 ^ d.coefficient.log2 := Nat.pow_le_pow_right (by decide) (by omega)
    _ ≤ d.coefficient := Nat.log2_self_le h

theorem lt_unreachedPower (d : Decimal) : d.toRat < (10 : ℚ) ^ d.unreachedPower := by
  apply toRat_lt
  calc d.coefficient < 2 ^ (d.coefficient.log2 + 1) := Nat.lt_log2_self
    _ ≤ 2 ^ (3 * (d.coefficient.log2 / 3 + 1)) := Nat.pow_le_pow_right (by decide) (by omega)
    _ = (2 ^ 3) ^ (d.coefficient.log2 / 3 + 1) := by rw [pow_mul]
    _ ≤ 10 ^ (d.coefficient.log2 / 3 + 1) := Nat.pow_le_pow_left (by decide) _

end Decimal

/-! ## Digits -/

theorem Token.Digits.isEmpty_eq_false {digits : List Char} (h : Digits digits) :
    digits.isEmpty = false :=
  List.isEmpty_eq_false_iff.2 h.1

theorem digits_toDigits (n : Nat) : Digits (Nat.toDigits 10 n) :=
  ⟨Nat.toDigits_ne_nil, fun _ hc => Nat.isDigit_of_mem_toDigits (by decide) (by decide) hc⟩

theorem isDigit_of_mem_zeros {n : Nat} {c : Char} (h : c ∈ List.replicate n '0') :
    c.isDigit = true := by
  rw [List.eq_of_mem_replicate h]
  rfl

/-- No zero stands before other digits. -/
def Unpadded (digits : List Char) : Prop :=
  digits = ['0'] ∨ ∀ c ∈ digits.head?, c ≠ '0'

theorem head?_toDigits_ne {n : Nat} (h : n ≠ 0) : ∀ c ∈ (Nat.toDigits 10 n).head?, c ≠ '0' := by
  induction n using Nat.strongRecOn with
  | ind n ih =>
    by_cases hlt : n < 10
    · have hdigit : ∀ m < 10, m ≠ 0 → m.digitChar ≠ '0' := by decide
      rw [Nat.toDigits_of_lt_base hlt]
      rintro c ⟨⟩
      exact hdigit n hlt h
    · -- The first digit is that of a tenth of the number.
      rw [Nat.toDigits_of_base_le (by decide) (by omega),
        List.head?_append_of_ne_nil _ Nat.toDigits_ne_nil]
      exact ih (n / 10) (by omega) (by omega)

theorem unpadded_toDigits (n : Nat) : Unpadded (Nat.toDigits 10 n) := by
  by_cases h : n = 0
  · subst h
    exact Or.inl (Nat.toDigits_zero 10)
  · exact Or.inr (head?_toDigits_ne h)

/-- The character can stand in a number. -/
def inNumber (c : Char) : Bool :=
  c.isDigit || ['-', '+', '.', 'e', 'E'].contains c

theorem inNumber_of_isDigit {c : Char} (h : c.isDigit = true) : inNumber c = true := by
  simp [inNumber, h]

theorem ne_of_inNumber {c d : Char} (hc : inNumber c = true) (hd : inNumber d = false) : c ≠ d := by
  rintro rfl
  rw [hc] at hd
  simp at hd

/-- The first of some characters does not make a number before them longer. -/
def EndsNumber (rest : List Char) : Prop :=
  ∀ c ∈ rest.head?, inNumber c = false

namespace Numeral

theorem value_append (xs ys : List Char) :
    value (xs ++ ys) = value xs * 10 ^ ys.length + value ys := by
  rw [value, Nat.ofDigitChars_append, Nat.ofDigitChars_eq_ofDigitChars_zero, mul_comm]
  rfl

theorem value_replicate_zero (n : Nat) : value (List.replicate n '0') = 0 := by
  rw [value, Nat.ofDigitChars_replicate_zero, mul_zero]

/-! ## Numerals with a point and an exponent -/

/-- A numeral with a point among its digits, and something behind them. -/
theorem decimal?_point {whole fraction rest : List Char} (hwhole : Digits whole)
    (hfraction : ∀ c ∈ fraction, c.isDigit = true) (hrest : ∀ c ∈ rest.head?, c.isDigit = false) :
    decimal? (whole ++ '.' :: (fraction ++ rest)) =
      (scale? rest).map fun e => ⟨value (whole ++ fraction), -(fraction.length : Int) + e⟩ := by
  have hpoint : ∀ c ∈ ('.' :: (fraction ++ rest)).head?, c.isDigit = false := by
    rintro c ⟨⟩
    rfl
  simp only [decimal?, takeWhile_run hwhole.2 hpoint, dropWhile_run hwhole.2 hpoint,
    takeWhile_run hfraction hrest, dropWhile_run hfraction hrest, hwhole.isEmpty_eq_false,
    Bool.false_and, Bool.false_eq_true, if_false]
  rfl

/-- A numeral without a point, and something behind its digits. -/
theorem decimal?_whole {whole rest : List Char} (hwhole : Digits whole)
    (hrest : ∀ c ∈ rest.head?, c.isDigit = false ∧ c ≠ '.') :
    decimal? (whole ++ rest) = (scale? rest).map fun e => ⟨value whole, e⟩ := by
  have hend : ∀ c ∈ rest.head?, c.isDigit = false := fun c hc => (hrest c hc).1
  simp only [decimal?, takeWhile_run hwhole.2 hend, dropWhile_run hwhole.2 hend]
  split
  · exact absurd rfl (hrest '.' rfl).2
  · simp [hwhole.isEmpty_eq_false, Decimal.ofParts, value]

/-- Below the bound the digits of an exponent all count. -/
theorem exponentValue_eq_value {digits : List Char} (h : value digits < exponentBound) :
    exponentValue digits = value digits := by
  have hgrows : ∀ (digits : List Char) (n : Nat), n ≤ Nat.ofDigitChars 10 digits n := by
    intro digits
    induction digits with
    | nil => exact Nat.le_refl
    | cons c more ih =>
      intro n
      rw [Nat.ofDigitChars_cons]
      exact Nat.le_trans (by omega) (ih _)
  have hfrom : ∀ (digits : List Char) (n : Nat), Nat.ofDigitChars 10 digits n < exponentBound →
      digits.foldl (fun n c => if n < exponentBound then 10 * n + (c.toNat - '0'.toNat) else n) n =
        Nat.ofDigitChars 10 digits n := by
    intro digits
    induction digits with
    | nil => exact fun _ _ => rfl
    | cons c more ih =>
      intro n hn
      have hbelow : n < exponentBound := Nat.lt_of_le_of_lt (hgrows _ n) hn
      rw [Nat.ofDigitChars_cons] at hn ⊢
      rw [List.foldl_cons, if_pos hbelow]
      exact ih _ hn
  exact hfrom digits 0 h

/-- An exponent as the scientific form writes it. -/
def exponentChars (place : Int) : List Char :=
  'e' :: (if place < 0 then '-' else '+') :: Nat.toDigits 10 place.natAbs

theorem scale?_exponentChars {place : Int} (h : place.natAbs < exponentBound) :
    scale? (exponentChars place) = some place := by
  have hdigits := digits_toDigits place.natAbs
  have hall : (Nat.toDigits 10 place.natAbs).all Char.isDigit = true := List.all_eq_true.2 hdigits.2
  have hvalue : exponentValue (Nat.toDigits 10 place.natAbs) = place.natAbs := by
    rw [exponentValue_eq_value] <;> rw [value_toDigits]
    exact h
  by_cases hneg : place < 0
  · have hplace : -(place.natAbs : Int) = place := by omega
    simp only [exponentChars, if_pos hneg, scale?, true_or, if_true, exponent?, splitSign,
      hdigits.isEmpty_eq_false, hall, hvalue, hplace, Bool.not_true, Bool.or_false,
      Bool.false_eq_true, if_false]
  · have hplace : (place.natAbs : Int) = place := by omega
    simp only [exponentChars, if_neg hneg, scale?, true_or, if_true, exponent?, splitSign,
      hdigits.isEmpty_eq_false, hall, hvalue, hplace, Bool.not_true, Bool.or_false,
      Bool.false_eq_true, if_false]

end Numeral

/-! ## Layouts -/

namespace Decimal

/-- Digits before and behind a point that stand for a number. -/
structure Pointed (whole fraction : List Char) (q : ℚ) : Prop where
  digits : Digits whole
  decimals : Digits fraction
  unpadded : Unpadded whole
  value : (ofParts whole fraction).toRat = q

/-- A point before the last of some digits divides them by a power of ten. -/
theorem pointed_parts {digits : List Char} {places : Nat} (hdigits : Digits digits)
    (hunpadded : Unpadded digits) (hplaces : places ≠ 0) :
    ∃ whole fraction, pointed digits places = whole ++ '.' :: fraction ∧
      Pointed whole fraction (toRat ⟨Numeral.value digits, -(places : Int)⟩) := by
  unfold pointed
  split
  · next hlt =>
    -- The point stands among the digits.
    refine ⟨_, _, rfl, ⟨?_, ?_⟩, ⟨?_, ?_⟩, ?_, ?_⟩
    · simp only [ne_eq, List.take_eq_nil_iff, not_or]
      exact ⟨by omega, hdigits.1⟩
    · exact fun c hc => hdigits.2 c (List.mem_of_mem_take hc)
    · simp only [ne_eq, List.drop_eq_nil_iff]
      omega
    · exact fun c hc => hdigits.2 c (List.mem_of_mem_drop hc)
    · rcases hunpadded with rfl | hhead
      · rw [List.length_singleton] at hlt
        omega
      · right
        intro c hc
        rw [List.head?_take, if_neg (by omega)] at hc
        exact hhead c hc
    · have hlength : digits.length - (digits.length - places) = places := by omega
      rw [ofParts, List.take_append_drop, List.length_drop, hlength]
      rfl
  · next hle =>
    -- The point stands before all of them, behind a zero.
    refine ⟨['0'], List.replicate (places - digits.length) '0' ++ digits, by simp,
      ⟨by simp, by simp⟩, ⟨by simp [hdigits.1], ?_⟩, Or.inl rfl, ?_⟩
    · intro c hc
      rcases List.mem_append.1 hc with hc | hc
      · exact isDigit_of_mem_zeros hc
      · exact hdigits.2 c hc
    · have hlength : places - digits.length + digits.length = places := by omega
      have hvalue : Numeral.value
          ('0' :: (List.replicate (places - digits.length) '0' ++ digits)) =
            Numeral.value digits := by
        rw [← List.cons_append, ← List.replicate_succ, Numeral.value_append,
          Numeral.value_replicate_zero, zero_mul, zero_add]
      rw [ofParts, List.length_append, List.length_replicate, hlength]
      exact congrArg (fun n => toRat ⟨n, -(places : Int)⟩) hvalue

/-- The positional form has digits on both sides of its point and the value of the decimal. -/
theorem positionalWithFraction_parts {d : Decimal} (h : d.coefficient = 0 → d.exponent = 0) :
    ∃ whole fraction, d.positionalWithFraction = whole ++ '.' :: fraction ∧
      Pointed whole fraction d.toRat := by
  obtain ⟨coefficient, exponent⟩ := d
  have hdigits := digits_toDigits coefficient
  have hvalue := Numeral.value_toDigits coefficient
  cases exponent with
  | ofNat zeros =>
    refine ⟨Nat.toDigits 10 coefficient ++ List.replicate zeros '0', ['0'], ?_, ⟨?_, ?_⟩,
      ⟨by simp, by simp⟩, ?_, ?_⟩
    · simp [positionalWithFraction, digits]
    · simp [hdigits.1]
    · intro c hc
      rcases List.mem_append.1 hc with hc | hc
      · exact hdigits.2 c hc
      · exact isDigit_of_mem_zeros hc
    · by_cases hzero : coefficient = 0
      · have hzeros : zeros = 0 := by simpa using h hzero
        subst hzero hzeros
        exact Or.inl rfl
      · right
        rw [List.head?_append_of_ne_nil _ hdigits.1]
        exact head?_toDigits_ne hzero
    · have hcoefficient : Numeral.value
          ((Nat.toDigits 10 coefficient ++ List.replicate zeros '0') ++ ['0']) =
            coefficient * 10 ^ (zeros + 1) := by
        rw [List.append_assoc, ← List.replicate_succ', Numeral.value_append, hvalue,
          Numeral.value_replicate_zero, List.length_replicate, add_zero]
      calc (ofParts (Nat.toDigits 10 coefficient ++ List.replicate zeros '0') ['0']).toRat
          = toRat ⟨coefficient * 10 ^ (zeros + 1), -1⟩ :=
            congrArg (fun n => toRat ⟨n, -1⟩) hcoefficient
        _ = toRat ⟨coefficient, -1 + (zeros + 1 : Nat)⟩ := toRat_shift _ _ _
        _ = toRat ⟨coefficient, Int.ofNat zeros⟩ := by
            congr 2
            simp
  | negSucc k =>
    have hparts := pointed_parts hdigits (unpadded_toDigits coefficient) (Nat.succ_ne_zero k)
    rw [hvalue] at hparts
    exact hparts

/-- A point and the digits behind it, or nothing if there are none. -/
def fractionChars : List Char → List Char
  | [] => []
  | digits => '.' :: digits

/-- The scientific form has one digit before its point. -/
theorem scientific_parts {d : Decimal} (h : d.coefficient ≠ 0) :
    ∃ first more, d.digits = first :: more ∧ first ≠ '0' ∧
      d.scientific = [first] ++ (fractionChars more ++ Numeral.exponentChars d.leading) := by
  cases hdigits : d.digits with
  | nil => exact absurd hdigits Nat.toDigits_ne_nil
  | cons first more =>
    refine ⟨first, more, rfl, ?_, ?_⟩
    · apply head?_toDigits_ne h
      change first ∈ d.digits.head?
      rw [hdigits]
      rfl
    · cases more <;> simp [scientific, hdigits, fractionChars, Numeral.exponentChars]

end Decimal

namespace Numeral

/-- Digits on both sides of a point are the parts of a decimal. -/
theorem decimal?_parts {whole fraction : List Char} (hwhole : Digits whole)
    (hfraction : Digits fraction) :
    decimal? (whole ++ '.' :: fraction) = some (Decimal.ofParts whole fraction) := by
  have hread := @decimal?_point whole fraction [] hwhole hfraction.2 (by simp)
  simpa [scale?, Decimal.ofParts, value] using hread

/-- The scientific form reads back as the decimal that it was made from. -/
theorem decimal?_scientific {d : Decimal} (h : d.coefficient ≠ 0)
    (hleading : d.leading.natAbs < exponentBound) : decimal? d.scientific = some d := by
  obtain ⟨first, more, hdigits, -, hchars⟩ := Decimal.scientific_parts h
  have hall : Digits (first :: more) := hdigits ▸ digits_toDigits d.coefficient
  have hvalue : value (first :: more) = d.coefficient := hdigits ▸ value_toDigits d.coefficient
  have hplace : d.leading = d.exponent + more.length := by
    rw [Decimal.leading, hdigits, List.length_cons]
    omega
  rw [hchars]
  cases more with
  | nil =>
    rw [Decimal.fractionChars, List.nil_append, decimal?_whole hall, scale?_exponentChars hleading,
      Option.map_some, hvalue, hplace]
    · simp
    · rintro c ⟨⟩
      exact ⟨rfl, by decide⟩
  | cons second more =>
    have hfirst : Digits [first] := ⟨by simp, fun c hc => hall.2 c (by simp at hc; simp [hc])⟩
    have hmore : ∀ c ∈ second :: more, c.isDigit = true := fun c hc =>
      hall.2 c (List.mem_cons_of_mem _ hc)
    change decimal? ([first] ++ '.' :: (second :: more ++ exponentChars d.leading)) = some d
    rw [decimal?_point hfirst hmore, scale?_exponentChars hleading, Option.map_some,
      List.singleton_append, hvalue, hplace, neg_add_cancel_comm_assoc]
    · rintro c ⟨⟩
      rfl

end Numeral

end Reckoner
