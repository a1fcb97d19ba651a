import Reckoner.Proofs.MonotoneRounding

/-!
# Quotients of whole numbers as doubles

Two whole numbers are divided as doubles if the second does not divide the first. A whole number of 64
bits that is not zero lies between one and `2 ^ 63` in absolute value, so the double nearest to it is
not beyond the powers of two next to them (`magnitude_ofInt`). The quotient of two such doubles is far
below the largest double, whatever is added to it in rounding.

Main statement: the quotient is finite (`isFinite_ofInt_div`).
-/

set_option autoImplicit false

namespace Reckoner.Binary64

open Float.Model Float.Model.UnpackedFloat

/-! ## Sizes of numbers in binary -/

/-- The number `m * 2 ^ e` lies below `2 ^ b`. -/
def Below (b : Int) (m : Nat) (e : Int) : Prop :=
  ∃ n : Nat, m < 2 ^ n ∧ e + n ≤ b

/-- Cutting off the last places keeps a number below a bound that the unit itself keeps. -/
theorem Below.shift {b e : Int} {m : Nat} (h : Below b m e) {k : Nat} (hk : e + k ≤ b) :
    Below b (m / 2 ^ k) (e + k) := by
  obtain ⟨n, hm, hn⟩ := h
  refine ⟨n - k, ?_, by omega⟩
  rw [Nat.div_lt_iff_lt_mul (Nat.two_pow_pos k)]
  calc m < 2 ^ n := hm
    _ ≤ 2 ^ (n - k + k) := Nat.pow_le_pow_right (by decide) (by omega)
    _ = 2 ^ (n - k) * 2 ^ k := Nat.pow_add ..

theorem Below.succ {b e : Int} {m : Nat} (h : Below b m e) : Below (b + 1) (m + 1) e := by
  obtain ⟨n, hm, hn⟩ := h
  refine ⟨n + 1, ?_, by omega⟩
  calc m + 1 ≤ 2 ^ n := hm
    _ < 2 ^ (n + 1) := Nat.pow_lt_pow_succ (by decide)

theorem Below.mono {b e : Int} {m m' : Nat} (h : Below b m e) (hle : m' ≤ m) : Below b m' e := by
  obtain ⟨n, hm, hn⟩ := h
  exact ⟨n, hle.trans_lt hm, hn⟩

/-- The unit of the last place that is kept of a number lies below the bound of the number. -/
theorem Below.targetExponent_le {b e : Int} {m : Nat} (h : Below b m e) (hb : -1074 ≤ b) :
    Format.binary64.targetExponent (totalExponent m e) ≤ b := by
  obtain ⟨n, hm, hn⟩ := h
  have hlog : m.log2 ≤ n := by
    by_cases hzero : m = 0
    · simp [hzero]
    · exact ((Nat.log2_lt hzero).2 hm).le
  simp only [Format.targetExponent, totalExponent, Format.mantissaBits, Format.minExponent]
  omega

/-! ## Rounding -/

theorem mantissa_shiftRight (em : ExtendedMantissa) (k : Nat) :
    (em >>> k).mantissa = em.mantissa / 2 ^ k := by
  induction k with
  | zero => exact (Nat.div_one _).symm
  | succ k ih =>
    change (em >>> k).mantissa / 2 = _
    rw [ih, Nat.div_div_eq_div_mul, ← Nat.pow_succ]

theorem roundedMantissa_le (em : ExtendedMantissa) : em.roundedMantissa ≤ em.mantissa + 1 := by
  obtain ⟨m, r, s⟩ := em
  cases r <;> cases s <;>
    simp only [ExtendedMantissa.roundedMantissa, ExtendedMantissa.accuracy,
      Accuracy.roundToNearestEven] <;>
    omega

theorem mantissa_ofMantissaAndAccuracy (m : Nat) (accuracy : Accuracy) :
    (ExtendedMantissa.ofMantissaAndAccuracy m accuracy).mantissa = m := by
  cases accuracy with
  | exact => rfl
  | inexact o => cases o <;> rfl

/-- Cutting a number down to the places of a double keeps it below its bound. -/
theorem Below.shiftToTargetExponent {b e : Int} {m : Nat} (h : Below b m e) (hb : -1074 ≤ b)
    (accuracy : Accuracy) :
    Below b (shiftToTargetExponent Format.binary64 m e accuracy).1.mantissa
      (shiftToTargetExponent Format.binary64 m e accuracy).2 := by
  have htarget := h.targetExponent_le hb
  have he : e ≤ b := by
    obtain ⟨n, -, hn⟩ := h
    omega
  simp only [UnpackedFloat.shiftToTargetExponent, shiftToExponent, mantissa_shiftRight,
    mantissa_ofMantissaAndAccuracy]
  apply h.shift
  omega

/-- The float is zero, or finite with an exponent that is not above `b`. -/
def ExponentLe (b : Int) : UnpackedFloat → Prop
  | .zero _ => True
  | .finite _ _ e _ => e ≤ b
  | .infinity _ => False
  | .notANumber => False

/-- Rounding gives a number with one binary place more at most. -/
theorem exponentLe_roundWithAccuracy {b e : Int} {m : Nat} (h : Below b m e) (hb : -1074 ≤ b)
    (sign : Sign) (accuracy : Accuracy) :
    ExponentLe (b + 1) (roundWithAccuracy Format.binary64 sign m e accuracy) := by
  -- The mantissa is cut down and rounded, which may take one more place, and is cut down again.
  have hrounded := (h.shiftToTargetExponent hb accuracy).succ.mono (roundedMantissa_le _)
  obtain ⟨n, -, hfinal⟩ := hrounded.shiftToTargetExponent (by omega) .exact
  unfold roundWithAccuracy
  simp only
  split
  · trivial
  · change _ ≤ b + 1
    omega

/-- A float with a small exponent is packed as a finite double. -/
theorem isFinite_pack {f : UnpackedFloat} (h : ExponentLe 970 f) :
    isFinite (Float.ofModel (Float.Model.pack f)) = true := by
  have hexponent : ¬ unpackExponent (f.pack Format.binary64) = -1#_ := by
    fun_cases UnpackedFloat.pack with
    | case1 => exact h.elim
    | case2 => exact h.elim
    | case3 => rw [packedZero, unpackExponent_packComponents]; decide
    | case4 s m e hm biased hlarge =>
      -- The exponent would have to be that of infinity.
      have he : e ≤ 970 := h
      simp only [biased, Format.exponentBias] at hlarge
      omega
    | case5 s m e hm log biased hsmall hnormal =>
      rw [unpackExponent_packComponents, ← BitVec.toNat_inj, BitVec.toNat_ofNat]
      have hbound : ¬ 2 ^ 11 ≤ biased + 1 := hsmall
      intro hones
      have hones' : biased % 2 ^ 11 = 2 ^ 11 - 1 := hones
      omega
    | case6 => rw [unpackExponent_packComponents]; decide
  rw [isFinite, decide_eq_true_eq, magnitude, ← Nat.not_le]
  exact mt (unpackExponent_eq_iff _).2 hexponent

/-! ## Dividing -/

/-- A finite double has its exponent and at most 53 binary places, or is zero. -/
theorem unpack_cases {x : Float} (hx : isFinite x = true) :
    (magnitude x < binade ∧ ∃ sign, x.toModel.unpack = .zero sign) ∨
      ∃ sign m e hm, x.toModel.unpack = .finite sign m e hm ∧ m < 2 ^ 53 ∧
        e = unitExponent (magnitude x) := by
  have hexponent := toNat_unpackExponent x.toBits.toBitVec
  have hfinite : ¬ @unpackExponent Format.binary64 x.toBits.toBitVec = -1#_ := by
    rw [unpackExponent_eq_iff, Nat.not_le]
    exact of_decide_eq_true hx
  have hfield : magnitude x / binade = (@unpackExponent Format.binary64 x.toBits.toBitVec).toNat := by
    rw [hexponent]
    change x.toBits.toNat % signBit / binade = x.toBits.toNat / 2 ^ 52 % 2 ^ 11
    unfold signBit binade
    omega
  have hsmall : @unpackExponent Format.binary64 x.toBits.toBitVec = 0#_ ↔ magnitude x < binade := by
    rw [← BitVec.toNat_inj, ← hfield]
    change magnitude x / binade = 0 ↔ _
    unfold binade
    omega
  change (_ ∧ ∃ sign, UnpackedFloat.unpack Format.binary64 x.toBits.toBitVec = .zero sign) ∨
    ∃ sign m e hm, UnpackedFloat.unpack Format.binary64 x.toBits.toBitVec = .finite sign m e hm ∧ _
  fun_cases UnpackedFloat.unpack with
  | case1 _ _ _ _ hones => exact absurd hones hfinite
  | case2 _ _ hones => exact absurd hones hfinite
  | case3 _ _ _ sign _ hzero => exact Or.inl ⟨hsmall.1 hzero, sign, rfl⟩
  | case4 mantissa _ exponent _ _ _ hzero _ =>
    -- a number below the least power of two with all its places
    refine Or.inr ⟨_, _, _, _, rfl, mantissa.isLt.trans (by decide), ?_⟩
    rw [unitExponent, if_pos (hsmall.1 hzero)]
    simp only [exponent, hzero]
    rfl
  | case5 mantissa _ _ _ _ _ hzero =>
    refine Or.inr ⟨_, _, _, _, rfl, (1#1 ++ mantissa).isLt, ?_⟩
    rw [unitExponent, if_neg (mt hsmall.2 hzero), hfield]
    rfl

/-- The exact quotient, cut down to its places, lies below what the numerator and the unit of the
denominator allow. -/
theorem below_divCore {m₁ m₂ n : Nat} {e₁ e₂ b : Int} (hm : m₁ < 2 ^ n) (hb : e₁ - e₂ + n ≤ b) :
    Below b (divCore Format.binary64 m₁ e₁ m₂ e₂).1 (divCore Format.binary64 m₁ e₁ m₂ e₂).2.1 := by
  simp only [divCore]
  generalize Format.binary64.targetExponent _ = target
  generalize hk : (e₁ - e₂ - min (e₁ - e₂) target).toNat = k
  refine ⟨n + k, ?_, by omega⟩
  calc (m₁ <<< k) / m₂ ≤ m₁ <<< k := Nat.div_le_self ..
    _ = m₁ * 2 ^ k := Nat.shiftLeft_eq ..
    _ < 2 ^ n * 2 ^ k := Nat.mul_lt_mul_of_pos_right hm (Nat.two_pow_pos k)
    _ = 2 ^ (n + k) := (Nat.pow_add ..).symm

/-- The quotient of two finite doubles is finite if the unit of the first is not too large for that of
the second. -/
theorem isFinite_div {x y : Float} (hx : isFinite x = true) (hy : isFinite y = true)
    (hy' : binade ≤ magnitude y)
    (hunit : unitExponent (magnitude x) - unitExponent (magnitude y) ≤ 900) :
    isFinite (x / y) = true := by
  apply isFinite_pack
  obtain ⟨hsmall, -⟩ | ⟨s₂, m₂, e₂, hm₂, hy, -, rfl⟩ := unpack_cases hy
  · exact absurd hsmall (Nat.not_lt.2 hy')
  rw [hy]
  obtain ⟨-, s₁, hx⟩ | ⟨s₁, m₁, e₁, hm₁, hx, hm₁', rfl⟩ := unpack_cases hx
  · rw [hx]
    trivial
  · rw [hx]
    have hb : unitExponent (magnitude x) - unitExponent (magnitude y) + (53 : Nat) ≤ 969 := by omega
    exact exponentLe_roundWithAccuracy (below_divCore hm₁' hb) (by decide) _ _

/-! ## Doubles nearest to whole numbers -/

/-- The double nearest to a whole number of 64 bits other than zero lies, in absolute value, between
one and `2 ^ 64`. -/
theorem magnitude_ofInt {n : Int} (hn : n ≠ 0) (hbound : n.natAbs ≤ 2 ^ 63) :
    isFinite (ofInt n) = true ∧ 1023 * binade ≤ magnitude (ofInt n) ∧
      magnitude (ofInt n) ≤ 1087 * binade := by
  have habs : n.natAbs ≠ 0 := Int.natAbs_ne_zero.2 hn
  obtain ⟨hlow, hhigh⟩ := log2_bounds habs
  have hlog : n.natAbs.log2 < 64 := (Nat.log2_lt habs).2 (by omega)
  have hnearest := nearestMagnitude_bounds (by omega) hlow hhigh
  refine ⟨isFinite_ofInt hbound, ?_⟩
  rw [ofInt_eq, magnitude_ofMagnitude _ (nearestMagnitude_lt hbound)]
  constructor
  · exact le_trans (Nat.mul_le_mul_right _ (by omega)) hnearest.1
  · exact hnearest.2.trans (Nat.mul_le_mul_right _ (by omega))

/-- Whole numbers of 64 bits, the second not zero, have a finite quotient as doubles. -/
theorem isFinite_ofInt_div {a b : Int} (ha : a.natAbs ≤ 2 ^ 63) (hb : b.natAbs ≤ 2 ^ 63)
    (hne : b ≠ 0) : isFinite (ofInt a / ofInt b) = true := by
  obtain ⟨hfinite, hlow, hhigh⟩ := magnitude_ofInt hne hb
  have hunit : -52 ≤ unitExponent (magnitude (ofInt b)) := by
    unfold unitExponent binade at *
    split <;> omega
  have hnormal : binade ≤ magnitude (ofInt b) := by
    unfold binade at *
    omega
  by_cases hzero : a = 0
  · subst hzero
    have hmagnitude : magnitude (ofInt 0) = 0 := by decide
    apply isFinite_div (by decide) hfinite hnormal
    rw [hmagnitude]
    unfold unitExponent binade at *
    omega
  · obtain ⟨hfinite', -, hhigh'⟩ := magnitude_ofInt hzero ha
    apply isFinite_div hfinite' hfinite hnormal
    have hunit' : unitExponent (magnitude (ofInt a)) ≤ 12 := by
      unfold unitExponent binade at *
      split <;> omega
    omega

end Reckoner.Binary64
