import Mathlib
import Reckoner.Binary64.Basic

/-!
# Patterns of doubles

Below the magnitude of infinity every pattern is that of exactly one double (`toBits_ofBits`), so
a double made from a sign and such a magnitude has that sign and that magnitude, and a finite
double is made from its own (`ofMagnitude_magnitude`). In particular the other sign, or no sign,
keeps a double finite.

`Binary64.isFinite` looks at the magnitude alone. It says what the floating-point model says: the
double is a number, and is not infinite (`isFinite_iff`). So does `Binary64.isNaN` (`isNaN_eq`).

That a pattern is the same after it has been unpacked and packed again is the lemma `pack_unpack` of
the library. No single file of Mathlib brings it along, so this module imports the whole.
-/

set_option autoImplicit false

namespace Reckoner.Binary64

open Float.Model Float.Model.UnpackedFloat

/-- The exponent of a pattern stands in the eleven bits before the last 52. -/
theorem toNat_unpackExponent (b : BitVec Format.binary64.numBits) :
    (unpackExponent b).toNat = b.toNat / 2 ^ 52 % 2 ^ 11 := by
  rw [unpackExponent_def, BitVec.extractLsb'_toNat, Nat.shiftRight_eq_div_pow]

/-- The exponent of a pattern has every bit set exactly if its magnitude is that of infinity or
greater. -/
theorem unpackExponent_eq_iff (b : BitVec Format.binary64.numBits) :
    unpackExponent b = -1#_ ↔ infinityMagnitude ≤ b.toNat % signBit := by
  have hones : (-1#11).toNat = 2 ^ 11 - 1 := rfl
  rw [← BitVec.toNat_inj, toNat_unpackExponent, hones]
  unfold infinityMagnitude signBit
  omega

/-- Below the magnitude of infinity every pattern is that of a double. -/
theorem toBits_ofBits {b : UInt64} (h : b.toNat % signBit < infinityMagnitude) :
    (Float.ofBits b).toBits = b := by
  have hexponent : ¬ @unpackExponent Format.binary64 b.toBitVec = -1#_ := by
    rw [unpackExponent_eq_iff]
    exact Nat.not_le.2 h
  have hnumber : @isNaNBits Format.binary64 b.toBitVec = false := by
    simp only [isNaNBits, hexponent, false_and, decide_false]
  have hpack : (unpack Format.binary64 b.toBitVec).pack Format.binary64 = b.toBitVec := by
    rw [pack_unpack, hnumber]
    rfl
  exact congrArg UInt64.ofBitVec hpack

theorem isFinite_ofBits {b : UInt64} (h : b.toNat % signBit < infinityMagnitude) :
    isFinite (Float.ofBits b) = true := by
  rw [isFinite, magnitude, toBits_ofBits h]
  exact decide_eq_true h

/-- The pattern of a double made from a sign and a magnitude below that of infinity. -/
theorem toNat_toBits_ofMagnitude (negative : Bool) {m : Nat} (h : m < infinityMagnitude) :
    (ofMagnitude negative m).toBits.toNat = if negative then signBit + m else m := by
  have hbits : (UInt64.ofNat (if negative then signBit + m else m)).toNat =
      if negative then signBit + m else m := by
    rw [UInt64.toNat_ofNat']
    apply Nat.mod_eq_of_lt
    unfold infinityMagnitude at h
    unfold signBit
    split <;> omega
  rw [ofMagnitude, toBits_ofBits, hbits]
  rw [hbits]
  unfold infinityMagnitude at h ⊢
  unfold signBit
  split <;> omega

theorem magnitude_ofMagnitude (negative : Bool) {m : Nat} (h : m < infinityMagnitude) :
    magnitude (ofMagnitude negative m) = m := by
  rw [magnitude, toNat_toBits_ofMagnitude negative h]
  unfold infinityMagnitude at h
  unfold signBit
  split <;> omega

theorem isNegative_ofMagnitude (negative : Bool) {m : Nat} (h : m < infinityMagnitude) :
    isNegative (ofMagnitude negative m) = negative := by
  rw [isNegative, toNat_toBits_ofMagnitude negative h]
  unfold infinityMagnitude at h
  unfold signBit
  cases negative with
  | true => simp
  | false =>
    rw [if_neg Bool.false_ne_true, decide_eq_false_iff_not]
    omega

theorem isFinite_ofMagnitude (negative : Bool) {m : Nat} (h : m < infinityMagnitude) :
    isFinite (ofMagnitude negative m) = true := by
  rw [isFinite, magnitude_ofMagnitude negative h]
  exact decide_eq_true h

theorem toBits_inj {x y : Float} (h : x.toBits = y.toBits) : x = y := by
  obtain ⟨⟨_, _⟩⟩ := x
  obtain ⟨⟨_, _⟩⟩ := y
  cases h
  rfl

/-- A finite double is made from its sign and its magnitude. -/
theorem ofMagnitude_magnitude {x : Float} (h : isFinite x = true) :
    ofMagnitude (isNegative x) (magnitude x) = x := by
  have hsplit : (if isNegative x then signBit + magnitude x else magnitude x) = x.toBits.toNat := by
    have hlt := x.toBits.toNat_lt
    unfold isNegative magnitude signBit
    simp only [decide_eq_true_eq]
    split <;> omega
  apply toBits_inj
  rw [← UInt64.toNat_inj, toNat_toBits_ofMagnitude _ (of_decide_eq_true h), hsplit]

theorem isFinite_negate {x : Float} (h : isFinite x = true) : isFinite (negate x) = true :=
  isFinite_ofMagnitude _ (of_decide_eq_true h)

theorem isFinite_absolute {x : Float} (h : isFinite x = true) : isFinite (absolute x) = true :=
  isFinite_ofMagnitude _ (of_decide_eq_true h)

/-- A double is finite exactly if it is a number and not infinite. -/
theorem isFinite_iff (x : Float) : isFinite x = true ↔ x.isNaN = false ∧ x.isInf = false := by
  have hexponent := unpackExponent_eq_iff x.toBits.toBitVec
  have hfinite : isFinite x = true ↔ ¬ @unpackExponent Format.binary64 x.toBits.toBitVec = -1#_ := by
    rw [hexponent, isFinite, decide_eq_true_eq, magnitude, Nat.not_le]
    rfl
  rw [hfinite]
  change _ ↔ (unpack Format.binary64 x.toBits.toBitVec).isNaN = false ∧
    (unpack Format.binary64 x.toBits.toBitVec).isInf = false
  fun_cases UnpackedFloat.unpack with
  | case1 _ _ _ _ hones _ =>
    -- infinity
    apply iff_of_false (fun h => h hones)
    rintro ⟨-, h⟩
    cases h
  | case2 _ _ hones _ =>
    -- no number
    apply iff_of_false (fun h => h hones)
    rintro ⟨h, -⟩
    cases h
  | case3 _ _ _ _ hones _ _ => exact iff_of_true hones ⟨rfl, rfl⟩
  | case4 _ _ _ _ _ hones _ _ => exact iff_of_true hones ⟨rfl, rfl⟩
  | case5 _ _ _ _ _ hones _ => exact iff_of_true hones ⟨rfl, rfl⟩

/-- The mantissa of a pattern stands in its last 52 bits. -/
theorem toNat_unpackMantissa (b : BitVec Format.binary64.numBits) :
    (unpackMantissa b).toNat = b.toNat % 2 ^ 52 := by
  rw [unpackMantissa_def, BitVec.extractLsb'_toNat, Nat.shiftRight_zero]

/-- A pattern above that of infinity has every bit of the exponent set, and some bit behind it. -/
theorem isNaN_eq_isNaNBits (x : Float) :
    isNaN x = @isNaNBits Format.binary64 x.toBits.toBitVec := by
  have hmantissa : @unpackMantissa Format.binary64 x.toBits.toBitVec = 0#_ ↔
      magnitude x % 2 ^ 52 = 0 := by
    rw [← BitVec.toNat_inj, toNat_unpackMantissa]
    change x.toBits.toNat % 2 ^ 52 = 0 ↔ x.toBits.toNat % signBit % 2 ^ 52 = 0
    unfold signBit
    omega
  have hlt : magnitude x < signBit := Nat.mod_lt _ (by decide)
  rw [isNaN, isNaNBits, decide_eq_decide, unpackExponent_eq_iff, ne_eq, hmantissa]
  change _ ↔ infinityMagnitude ≤ magnitude x ∧ _
  unfold infinityMagnitude signBit at *
  omega

/-- A double is no number exactly if its magnitude lies above that of infinity. -/
theorem isNaN_eq (x : Float) : isNaN x = x.isNaN := by
  rw [isNaN_eq_isNaNBits, isNaNBits]
  change _ = (unpack Format.binary64 x.toBits.toBitVec).isNaN
  fun_cases UnpackedFloat.unpack with
  | case1 _ _ _ _ _ hzero => exact decide_eq_false fun h => h.2 hzero
  | case2 _ _ hones hzero => exact decide_eq_true ⟨hones, hzero⟩
  | case3 _ _ _ _ hones => exact decide_eq_false fun h => hones h.1
  | case4 _ _ _ _ _ hones => exact decide_eq_false fun h => hones h.1
  | case5 _ _ _ _ _ hones => exact decide_eq_false fun h => hones h.1

end Reckoner.Binary64
