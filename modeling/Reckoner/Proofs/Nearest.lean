import Reckoner.Binary64.Nearest
import Reckoner.Proofs.Binary64
import Reckoner.Proofs.Decimal

/-!
# The magnitude nearest to a number

The last place of a positive rational lies 52 places below its leading bit, or is that of the
smallest double (`lastPlace_eq`). A finite magnitude is a whole number of units in that place, so
rounding gives it back (`nearestMagnitude_significand`).

Far outside the range of the doubles everything is rounded to zero, or to infinity. Reading a
decimal decides such cases by a bound on its size, and what it gives is the nearest double in every
case (`ofDecimal_eq`). In particular it depends on nothing but the value of the decimal.
-/

set_option autoImplicit false

namespace Reckoner.Binary64

/-! ## Whole numbers -/

theorem roundEven_intCast (n : Int) : roundEven (n : ℚ) = n := by
  simp [roundEven, Rat.floor_intCast]

/-- Less than a half is rounded to zero. -/
theorem roundEven_of_lt {q : ℚ} (hnonneg : 0 ≤ q) (hlt : q + q < 1) : roundEven q = 0 := by
  have hfloor : q.floor = 0 := by
    apply le_antisymm
    · rw [← Int.lt_add_one_iff, Rat.floor_lt_iff]
      push_cast
      linarith
    · rw [Rat.le_floor_iff]
      exact_mod_cast hnonneg
  simp [roundEven, hfloor, hlt]

/-! ## The last place -/

theorem log2_bounds {n : Nat} (h : n ≠ 0) :
    (2 : ℚ) ^ (n.log2 : ℤ) ≤ n ∧ (n : ℚ) < 2 ^ ((n.log2 : ℤ) + 1) := by
  have hhigh : n < 2 ^ (n.log2 + 1) := Nat.lt_log2_self
  constructor
  · rw [zpow_natCast]
    exact_mod_cast Nat.log2_self_le h
  · exact_mod_cast hhigh

/-- The bits of numerator and denominator leave two places for the leading bit of a rational. -/
theorem quotient_bounds {q : ℚ} (hpos : 0 < q) :
    (2 : ℚ) ^ ((q.num.natAbs.log2 : ℤ) - q.den.log2 - 1) < q ∧
      q < 2 ^ ((q.num.natAbs.log2 : ℤ) - q.den.log2 + 1) := by
  have hnum : q.num.natAbs ≠ 0 := Int.natAbs_ne_zero.2 (Rat.num_ne_zero.2 hpos.ne')
  have hden : (0 : ℚ) < q.den := by exact_mod_cast q.den_pos
  have hq : q * q.den = (q.num.natAbs : ℚ) := by
    have hcast : ((q.num.natAbs : ℤ) : ℚ) = q.num := by
      rw [Int.natAbs_of_nonneg (Rat.num_nonneg.2 hpos.le)]
    rw [Rat.mul_den_eq_num, ← hcast, Int.cast_natCast]
  obtain ⟨hnumLow, hnumHigh⟩ := log2_bounds hnum
  obtain ⟨hdenLow, hdenHigh⟩ := log2_bounds q.den_nz
  generalize (q.num.natAbs.log2 : ℤ) = a at hnumLow hnumHigh ⊢
  generalize (q.den.log2 : ℤ) = b at hdenLow hdenHigh ⊢
  constructor
  · rw [← mul_lt_mul_iff_left₀ hden, hq]
    calc (2 : ℚ) ^ (a - b - 1) * q.den < 2 ^ (a - b - 1) * 2 ^ (b + 1) :=
          mul_lt_mul_of_pos_left hdenHigh (by positivity)
      _ = 2 ^ a := by
          rw [← zpow_add₀ two_ne_zero]
          congr 1
          ring
      _ ≤ q.num.natAbs := hnumLow
  · rw [← mul_lt_mul_iff_left₀ hden, hq]
    calc (q.num.natAbs : ℚ) < 2 ^ (a + 1) := hnumHigh
      _ = 2 ^ (a - b + 1) * 2 ^ b := by
          rw [← zpow_add₀ two_ne_zero]
          congr 1
          ring
      _ ≤ 2 ^ (a - b + 1) * q.den := mul_le_mul_of_nonneg_left hdenLow (by positivity)

theorem lt_of_zpow_lt {a b : Int} (h : (2 : ℚ) ^ a < 2 ^ b) : a < b :=
  (zpow_lt_zpow_iff_right₀ one_lt_two).1 h

/-- The last place of a rational whose leading bit is known. -/
theorem lastPlace_eq {q : ℚ} {k : Int} (hlow : (2 : ℚ) ^ k ≤ q) (hhigh : q < 2 ^ (k + 1)) :
    lastPlace q = max (k - 52) (-1074) := by
  obtain ⟨hbelow, habove⟩ := quotient_bounds (lt_of_lt_of_le (by positivity) hlow)
  have hk := lt_of_zpow_lt (hbelow.trans hhigh)
  have hk' := lt_of_zpow_lt (hlow.trans_lt habove)
  unfold lastPlace
  simp only [power_eq_zpow, Nat.cast_ofNat]
  split
  · next hguess =>
    have := lt_of_zpow_lt (hguess.trans_lt hhigh)
    omega
  · next hguess =>
    have := lt_of_zpow_lt (hlow.trans_lt (not_le.1 hguess))
    omega

/-- The last place of a whole number of units. -/
theorem lastPlace_units {n : Nat} {k place : Int} (hlow : (2 : ℚ) ^ k ≤ n)
    (hhigh : (n : ℚ) < 2 ^ (k + 1)) :
    lastPlace (n * 2 ^ place) = max (k + place - 52) (-1074) := by
  have hunit : (0 : ℚ) < 2 ^ place := by positivity
  apply lastPlace_eq
  · rw [zpow_add₀ two_ne_zero]
    exact mul_le_mul_of_nonneg_right hlow hunit.le
  · rw [add_right_comm, zpow_add₀ two_ne_zero]
    exact mul_lt_mul_of_pos_right hhigh hunit

/-! ## Nearest magnitudes -/

theorem nearestMagnitude_zero : nearestMagnitude 0 = 0 := by
  simp [nearestMagnitude]

/-- The magnitude is counted in units of the last place. -/
theorem nearestMagnitude_eq {q : ℚ} (hpos : 0 < q) :
    nearestMagnitude q = min infinityMagnitude ((lastPlace q + 1074).toNat * binade +
      (roundEven (q / 2 ^ lastPlace q)).toNat) := by
  simp only [nearestMagnitude, if_neg (Rat.num_ne_zero.2 hpos.ne'), power_eq_zpow, Nat.cast_ofNat]

/-- A whole number of units in its last place is rounded to itself. -/
theorem nearestMagnitude_units {n : Nat} {place : Int} (hn : n ≠ 0)
    (hplace : lastPlace (n * 2 ^ place) = place) :
    nearestMagnitude (n * 2 ^ place) =
      min infinityMagnitude ((place + 1074).toNat * binade + n) := by
  have hunit : (0 : ℚ) < 2 ^ place := by positivity
  have hpos : (0 : ℚ) < n * 2 ^ place := mul_pos (by exact_mod_cast Nat.pos_of_ne_zero hn) hunit
  have hunits : roundEven (n : ℚ) = n := roundEven_intCast n
  rw [nearestMagnitude_eq hpos, hplace, mul_div_cancel_right₀ _ hunit.ne', hunits,
    Int.toNat_natCast]

/-- A magnitude below that of infinity is the one nearest to its value. -/
theorem nearestMagnitude_significand {m : Nat} (h : m < infinityMagnitude) :
    nearestMagnitude ((significand m : ℚ) * power 2 (unitExponent m)) = m := by
  rw [power_eq_zpow, Nat.cast_ofNat]
  by_cases hzero : m = 0
  · subst hzero
    simp [significand, binade, nearestMagnitude_zero]
  by_cases hsmall : m < binade
  · -- The last place is that of the smallest double.
    obtain ⟨hlow, hhigh⟩ := log2_bounds hzero
    have hlog : m.log2 < 52 := (Nat.log2_lt hzero).2 hsmall
    have hplace : lastPlace ((m : ℚ) * 2 ^ (-1074 : ℤ)) = -1074 := by
      rw [lastPlace_units hlow hhigh]
      omega
    rw [significand, if_pos hsmall, unitExponent, if_pos hsmall,
      nearestMagnitude_units hzero hplace]
    unfold infinityMagnitude binade at *
    omega
  · -- The leading bit of the significand is its 52nd.
    have hleading : m % binade + binade ≠ 0 ∧ 2 ^ 52 ≤ m % binade + binade ∧
        m % binade + binade < 2 ^ (52 + 1) := by
      unfold binade
      omega
    have hlow : (2 : ℚ) ^ (52 : ℤ) ≤ (m % binade + binade : Nat) := by exact_mod_cast hleading.2.1
    have hhigh : ((m % binade + binade : Nat) : ℚ) < 2 ^ (52 + 1 : ℤ) := by
      exact_mod_cast hleading.2.2
    have hplace : lastPlace ((m % binade + binade : Nat) * 2 ^ ((m / binade : Nat) - 1075 : ℤ)) =
        (m / binade : Nat) - 1075 := by
      rw [lastPlace_units hlow hhigh]
      unfold binade at *
      omega
    rw [significand, if_neg hsmall, unitExponent, if_neg hsmall,
      nearestMagnitude_units hleading.1 hplace]
    unfold infinityMagnitude binade at *
    omega

/-! ## Far outside the range -/

/-- Three bits are worth less than a digit. -/
theorem two_zpow_le_ten_zpow (n : Nat) : (2 : ℚ) ^ (3 * n : ℤ) ≤ 10 ^ (n : ℤ) := by
  rw [zpow_mul, zpow_natCast, zpow_natCast]
  exact pow_le_pow_left₀ (by norm_num) (by norm_num) n

theorem nearestMagnitude_of_small {q : ℚ} (hnonneg : 0 ≤ q) (hlt : q < 10 ^ (-400 : ℤ)) :
    nearestMagnitude q = 0 := by
  rcases hnonneg.eq_or_lt with rfl | hpos
  · exact nearestMagnitude_zero
  obtain ⟨k, hlow, hhigh⟩ := exists_mem_Ico_zpow hpos one_lt_two
  have hsmall : q < 2 ^ (-1200 : ℤ) := by
    apply hlt.trans_le
    rw [zpow_neg, zpow_neg]
    exact inv_anti₀ (by positivity) (two_zpow_le_ten_zpow 400)
  have hk : k < -1200 := lt_of_zpow_lt (hlow.trans_lt hsmall)
  have hplace : lastPlace q = -1074 := by
    rw [lastPlace_eq hlow hhigh]
    omega
  -- Less than half a unit is left of it.
  have hunits : roundEven (q / 2 ^ (-1074 : ℤ)) = 0 := by
    apply roundEven_of_lt (by positivity)
    rw [← add_div, div_lt_one (by positivity)]
    calc q + q < 2 ^ (-1200 : ℤ) + 2 ^ (-1200 : ℤ) := add_lt_add hsmall hsmall
      _ = 2 ^ (-1199 : ℤ) := by
          rw [← mul_two, ← zpow_add_one₀ two_ne_zero]
          rfl
      _ ≤ 2 ^ (-1074 : ℤ) := zpow_le_zpow_right₀ one_le_two (by decide)
  rw [nearestMagnitude_eq hpos, hplace, hunits]
  rfl

theorem nearestMagnitude_of_large {q : ℚ} (hle : (10 : ℚ) ^ (400 : ℤ) ≤ q) :
    nearestMagnitude q = infinityMagnitude := by
  have hlarge : (2 : ℚ) ^ (1200 : ℤ) ≤ q := (two_zpow_le_ten_zpow 400).trans hle
  have hpos : 0 < q := lt_of_lt_of_le (by positivity) hlarge
  obtain ⟨k, hlow, hhigh⟩ := exists_mem_Ico_zpow hpos one_lt_two
  have hk : 1200 < k + 1 := lt_of_zpow_lt (hlarge.trans_lt hhigh)
  have hplace : lastPlace q = k - 52 := by
    rw [lastPlace_eq hlow hhigh]
    omega
  rw [nearestMagnitude_eq hpos, hplace]
  unfold infinityMagnitude binade
  omega

/-- The double of a decimal is the one nearest to its value, whatever the size of the decimal. -/
theorem ofDecimal_eq (d : Decimal) :
    ofDecimal d = ofMagnitude false (nearestMagnitude d.toRat) := by
  have hnonneg := d.toRat_nonneg
  unfold ofDecimal
  split
  · next hzero => rw [Decimal.toRat_eq, hzero, Nat.cast_zero, zero_mul, nearestMagnitude_zero]
  · next hne =>
    split
    · next hsmall =>
      have hlt : d.toRat < 10 ^ (-400 : ℤ) :=
        d.lt_unreachedPower.trans (zpow_lt_zpow_right₀ (by norm_num) hsmall)
      rw [nearestMagnitude_of_small hnonneg hlt]
    · split
      · next hlarge =>
        have hle : (10 : ℚ) ^ (400 : ℤ) ≤ d.toRat :=
          (zpow_le_zpow_right₀ (by norm_num) hlarge.le).trans (Decimal.reachedPower_le hne)
        rw [nearestMagnitude_of_large hle]
      · rw [nearest, if_neg hnonneg.not_gt]

end Reckoner.Binary64
