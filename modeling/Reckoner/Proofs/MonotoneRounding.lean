import Reckoner.Proofs.Nearest

/-!
# Rounding keeps the order

A larger rational is never rounded to a smaller magnitude (`nearestMagnitude_mono`). If two rationals
have the same last place, this is a property of rounding to whole numbers; if not, a power of two lies
between their magnitudes.

So the double nearest to a whole number of 64 bits grows with the number (`rank_ofInt_mono`). Different
numbers may have the same nearest double, but not up to `2 ^ 53` (`rank_ofInt_strictMono`).
-/

set_option autoImplicit false

namespace Reckoner.Binary64

/-! ## Rounding to whole numbers -/

/-- Rounding moves a number by a half at most. -/
theorem roundEven_error (q : ℚ) :
    2 * (roundEven q : ℚ) ≤ 2 * q + 1 ∧ 2 * q ≤ 2 * (roundEven q : ℚ) + 1 := by
  have hlow : (q.floor : ℚ) ≤ q := Rat.floor_le q
  have hhigh : q < q.floor + 1 := by exact_mod_cast Rat.lt_floor_add_one q
  have hparity : ((q.floor % 2 : Int) : ℚ) = 0 ∨ ((q.floor % 2 : Int) : ℚ) = 1 := by
    exact_mod_cast Int.emod_two_eq_zero_or_one q.floor
  simp only [roundEven]
  split
  · constructor <;> linarith
  · split
    · push_cast
      constructor <;> linarith
    · -- Halfway it is one of the two neighbours.
      push_cast
      rcases hparity with hparity | hparity <;> rw [hparity] <;> constructor <;> linarith

theorem roundEven_mono {p q : ℚ} (h : p ≤ q) : roundEven p ≤ roundEven q := by
  by_contra hlt
  have hstep : (roundEven q : ℚ) + 1 ≤ roundEven p := by exact_mod_cast Int.not_le.1 hlt
  -- Both would lie halfway between the two results, and so be the same number.
  have heq : p = q := by
    have hp := (roundEven_error p).1
    have hq := (roundEven_error q).2
    linarith
  exact hlt (heq ▸ le_refl _)

/-! ## Rounding to magnitudes -/

/-- The last place of a smaller rational is not above that of a larger one. -/
theorem lastPlace_mono {p q : ℚ} (hpos : 0 < p) (h : p ≤ q) : lastPlace p ≤ lastPlace q := by
  obtain ⟨j, hlow, hhigh⟩ := exists_mem_Ico_zpow hpos one_lt_two
  obtain ⟨k, hlow', hhigh'⟩ := exists_mem_Ico_zpow (hpos.trans_le h) one_lt_two
  have hleading : j < k + 1 := lt_of_zpow_lt (hlow.trans_lt (h.trans_lt hhigh'))
  rw [lastPlace_eq hlow hhigh, lastPlace_eq hlow' hhigh']
  omega

/-- Units in the last place never fill more than two spaces between powers of two. -/
theorem units_le {q : ℚ} (hpos : 0 < q) :
    roundEven (q / 2 ^ lastPlace q) ≤ 2 * (binade : Int) := by
  obtain ⟨k, hlow, hhigh⟩ := exists_mem_Ico_zpow hpos one_lt_two
  have hplace : k + 1 ≤ 53 + lastPlace q := by
    rw [lastPlace_eq hlow hhigh]
    omega
  have hle : q / 2 ^ lastPlace q ≤ ((2 * (binade : Int) : Int) : ℚ) := by
    rw [div_le_iff₀ (by positivity)]
    calc q ≤ 2 ^ (k + 1) := hhigh.le
      _ ≤ 2 ^ (53 + lastPlace q) := zpow_le_zpow_right₀ one_le_two hplace
      _ = ((2 * (binade : Int) : Int) : ℚ) * 2 ^ lastPlace q := by
          rw [zpow_add₀ two_ne_zero]
          norm_num [binade]
  exact (roundEven_mono hle).trans_eq (roundEven_intCast _)

/-- Above the smallest place the units in the last place fill a space between powers of two. -/
theorem le_units {q : ℚ} (hpos : 0 < q) (hplace : -1074 < lastPlace q) :
    (binade : Int) ≤ roundEven (q / 2 ^ lastPlace q) := by
  obtain ⟨k, hlow, hhigh⟩ := exists_mem_Ico_zpow hpos one_lt_two
  have hk : 52 + lastPlace q = k := by
    rw [lastPlace_eq hlow hhigh] at hplace ⊢
    omega
  have hle : (((binade : Int) : Int) : ℚ) ≤ q / 2 ^ lastPlace q := by
    rw [le_div_iff₀ (by positivity)]
    calc (((binade : Int) : Int) : ℚ) * 2 ^ lastPlace q = 2 ^ (52 + lastPlace q) := by
          rw [zpow_add₀ two_ne_zero]
          norm_num [binade]
      _ ≤ q := by rwa [hk]
  exact (roundEven_intCast _).symm.trans_le (roundEven_mono hle)

/-- A larger rational is never rounded to a smaller magnitude. -/
theorem nearestMagnitude_mono {p q : ℚ} (hnonneg : 0 ≤ p) (h : p ≤ q) :
    nearestMagnitude p ≤ nearestMagnitude q := by
  rcases hnonneg.eq_or_lt with rfl | hpos
  · rw [nearestMagnitude_zero]
    exact Nat.zero_le _
  rw [nearestMagnitude_eq hpos, nearestMagnitude_eq (hpos.trans_le h)]
  apply min_le_min_left
  rcases (lastPlace_mono hpos h).eq_or_lt with hplace | hplace
  · -- In the same unit, whole numbers are compared.
    have hunits : roundEven (p / 2 ^ lastPlace p) ≤ roundEven (q / 2 ^ lastPlace p) :=
      roundEven_mono (div_le_div_of_nonneg_right h (by positivity))
    rw [← hplace]
    omega
  · -- The power of two that begins the place of the larger one lies between them.
    have hsmallest : -1074 ≤ lastPlace p := le_max_right _ _
    have hlow := units_le hpos
    have hhigh := le_units (hpos.trans_le h) (hsmallest.trans_lt hplace)
    unfold binade at *
    omega

/-- A rational between two neighbouring powers of two is rounded to a double between them. -/
theorem nearestMagnitude_bounds {q : ℚ} {k : Nat} (hk : k ≤ 1000) (hlow : (2 : ℚ) ^ (k : ℤ) ≤ q)
    (hhigh : q < 2 ^ ((k : ℤ) + 1)) :
    (k + 1023) * binade ≤ nearestMagnitude q ∧ nearestMagnitude q ≤ (k + 1024) * binade := by
  have hpos : 0 < q := lt_of_lt_of_le (by positivity) hlow
  have hplace : lastPlace q = k - 52 := by
    rw [lastPlace_eq hlow hhigh]
    omega
  have hfew := units_le hpos
  have hmany := le_units hpos (by omega)
  rw [nearestMagnitude_eq hpos, hplace]
  rw [hplace] at hfew hmany
  unfold infinityMagnitude binade at *
  omega

/-! ## Whole numbers -/

/-- The double nearest to a whole number has its sign, and the magnitude nearest to its absolute
value. -/
theorem ofInt_eq (n : Int) :
    ofInt n = ofMagnitude (decide (n < 0)) (nearestMagnitude (n.natAbs : ℚ)) := by
  have hcast : ((n.natAbs : ℕ) : ℚ) = |(n : ℚ)| := by
    rw [Nat.cast_natAbs, Int.cast_abs]
  rw [ofInt, nearest, hcast]
  by_cases hneg : n < 0
  · have hneg' : (n : ℚ) < 0 := Int.cast_lt_zero.2 hneg
    rw [if_pos hneg', abs_of_neg hneg', decide_eq_true hneg]
  · have hnonneg : (0 : ℚ) ≤ n := Int.cast_nonneg (not_lt.1 hneg)
    rw [if_neg hnonneg.not_gt, abs_of_nonneg hnonneg, decide_eq_false hneg]

/-- A whole number of 64 bits is rounded to a finite magnitude. -/
theorem nearestMagnitude_lt {n : Nat} (h : n ≤ 2 ^ 63) :
    nearestMagnitude (n : ℚ) < infinityMagnitude := by
  have hle : (n : ℚ) ≤ 2 ^ 63 := by exact_mod_cast h
  have hbound : nearestMagnitude (2 ^ 63 : ℚ) < infinityMagnitude := by decide +kernel
  exact (nearestMagnitude_mono n.cast_nonneg hle).trans_lt hbound

/-- A natural number of at most 53 binary places is a whole number of units in its last place, which
do not fill two spaces between powers of two. -/
theorem nearestMagnitude_natCast {n k : Nat} (hk : k ≤ 52) (hlow : 2 ^ k ≤ n)
    (hhigh : n < 2 ^ (k + 1)) :
    nearestMagnitude (n : ℚ) = (k + 1022) * binade + n * 2 ^ (52 - k) ∧
      n * 2 ^ (52 - k) < 2 * binade := by
  have hlow' : (2 : ℚ) ^ (k : ℤ) ≤ n := by exact_mod_cast hlow
  have hhigh' : (n : ℚ) < 2 ^ ((k : ℤ) + 1) := by exact_mod_cast hhigh
  have hplace : lastPlace (n : ℚ) = k - 52 := by
    rw [lastPlace_eq hlow' hhigh']
    omega
  have hunits : (n : ℚ) = (n * 2 ^ (52 - k) : Nat) * 2 ^ ((k : ℤ) - 52) := by
    have hplaces : ((52 - k : Nat) : ℤ) + ((k : ℤ) - 52) = 0 := by omega
    push_cast
    rw [mul_assoc, ← zpow_natCast, ← zpow_add₀ two_ne_zero, hplaces, zpow_zero, mul_one]
  have hbound : n * 2 ^ (52 - k) < 2 * binade := by
    have hplaces : k + 1 + (52 - k) = 53 := by omega
    calc n * 2 ^ (52 - k) < 2 ^ (k + 1) * 2 ^ (52 - k) :=
          Nat.mul_lt_mul_of_pos_right hhigh (Nat.two_pow_pos _)
      _ = 2 ^ 53 := by rw [← Nat.pow_add, hplaces]
      _ = 2 * binade := rfl
  have hne : n * 2 ^ (52 - k) ≠ 0 :=
    Nat.mul_ne_zero (Nat.ne_of_gt (Nat.lt_of_lt_of_le (Nat.two_pow_pos k) hlow))
      (Nat.two_pow_pos _).ne'
  refine ⟨?_, hbound⟩
  rw [hunits] at hplace ⊢
  rw [nearestMagnitude_units hne hplace]
  unfold infinityMagnitude binade at *
  omega

/-- A natural number below `2 ^ 53` and the next one keep apart. -/
theorem nearestMagnitude_lt_succ {n : Nat} (h : n < 2 ^ 53) :
    nearestMagnitude (n : ℚ) < nearestMagnitude ((n + 1 : Nat) : ℚ) := by
  by_cases hzero : n = 0
  · subst hzero
    have hone := (nearestMagnitude_natCast (n := 1) (k := 0) (by decide) le_rfl (by decide)).1
    rw [hone, Nat.cast_zero, nearestMagnitude_zero]
    decide
  have hk : n.log2 ≤ 52 := Nat.lt_succ_iff.1 ((Nat.log2_lt hzero).2 h)
  have hlow : 2 ^ n.log2 ≤ n := Nat.log2_self_le hzero
  have hhigh : n < 2 ^ (n.log2 + 1) := Nat.lt_log2_self
  obtain ⟨heq, hbound⟩ := nearestMagnitude_natCast hk hlow hhigh
  by_cases hcarry : n + 1 < 2 ^ (n.log2 + 1)
  · -- One unit of the number is at least one unit in the last place.
    have hnext := (nearestMagnitude_natCast hk (hlow.trans (Nat.le_add_right n 1)) hcarry).1
    have hunit := Nat.two_pow_pos (52 - n.log2)
    rw [heq, hnext, Nat.add_one_mul n]
    omega
  · -- The next number is a power of two.
    have hpower : n + 1 = 2 ^ (n.log2 + 1) := le_antisymm hhigh (Nat.not_lt.1 hcarry)
    have hlow' : (2 : ℚ) ^ ((n.log2 + 1 : Nat) : ℤ) ≤ (n + 1 : Nat) := by
      rw [hpower]
      push_cast
      exact le_refl _
    have hhigh' : ((n + 1 : Nat) : ℚ) < 2 ^ (((n.log2 + 1 : Nat) : ℤ) + 1) := by
      rw [hpower]
      exact_mod_cast Nat.pow_lt_pow_succ (by decide)
    have hnext := (nearestMagnitude_bounds (by omega) hlow' hhigh').1
    rw [heq]
    unfold binade at *
    omega

/-- Natural numbers up to `2 ^ 53` keep apart. -/
theorem nearestMagnitude_strictMono {m n : Nat} (h : m < n) (hn : n ≤ 2 ^ 53) :
    nearestMagnitude (m : ℚ) < nearestMagnitude (n : ℚ) := by
  have hle : ((m + 1 : Nat) : ℚ) ≤ n := by exact_mod_cast h
  exact (nearestMagnitude_lt_succ (h.trans_le hn)).trans_le
    (nearestMagnitude_mono (Nat.cast_nonneg _) hle)

theorem isFinite_ofInt {n : Int} (h : n.natAbs ≤ 2 ^ 63) : isFinite (ofInt n) = true := by
  rw [ofInt_eq]
  exact isFinite_ofMagnitude _ (nearestMagnitude_lt h)

theorem rank_ofInt {n : Int} (h : n.natAbs ≤ 2 ^ 63) :
    rank (ofInt n) = if n < 0 then -(nearestMagnitude (n.natAbs : ℚ) : Int)
      else nearestMagnitude (n.natAbs : ℚ) := by
  have hfinite := nearestMagnitude_lt h
  rw [rank, ofInt_eq, isNegative_ofMagnitude _ hfinite, magnitude_ofMagnitude _ hfinite]
  simp only [decide_eq_true_eq]

/-- The nearest double grows with the number. -/
theorem rank_ofInt_mono {a b : Int} (ha : a.natAbs ≤ 2 ^ 63) (hb : b.natAbs ≤ 2 ^ 63) (h : a ≤ b) :
    rank (ofInt a) ≤ rank (ofInt b) := by
  have hmono : ∀ m n : Nat, m ≤ n → nearestMagnitude (m : ℚ) ≤ nearestMagnitude (n : ℚ) := by
    intro m n hmn
    exact nearestMagnitude_mono m.cast_nonneg (by exact_mod_cast hmn)
  have hpositive := hmono a.natAbs b.natAbs
  have hnegative := hmono b.natAbs a.natAbs
  rw [rank_ofInt ha, rank_ofInt hb]
  split <;> split <;> omega

/-- Up to `2 ^ 53` in absolute value, the nearest double of a larger number is larger. -/
theorem rank_ofInt_strictMono {a b : Int} (ha : a.natAbs ≤ 2 ^ 53) (hb : b.natAbs ≤ 2 ^ 53)
    (h : a < b) : rank (ofInt a) < rank (ofInt b) := by
  have hpositive : a.natAbs < b.natAbs →
      nearestMagnitude (a.natAbs : ℚ) < nearestMagnitude (b.natAbs : ℚ) :=
    fun hlt => nearestMagnitude_strictMono hlt hb
  have hnegative : b.natAbs < a.natAbs →
      nearestMagnitude (b.natAbs : ℚ) < nearestMagnitude (a.natAbs : ℚ) :=
    fun hlt => nearestMagnitude_strictMono hlt ha
  have hzero : 0 < a.natAbs → 0 < nearestMagnitude (a.natAbs : ℚ) :=
    fun hlt => Nat.zero_lt_of_lt (nearestMagnitude_strictMono hlt ha)
  rw [rank_ofInt (by omega), rank_ofInt (by omega)]
  split <;> split <;> omega

end Reckoner.Binary64
