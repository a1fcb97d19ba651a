import Mathlib.Algebra.Ring.Int.Parity
import Reckoner.Builtin.Call
import Reckoner.Proofs.Integer

/-!
# Powers of integers

The power of an integer to a whole exponent is the exact power wherever that is in range
(`Integer.pow?_eq`). Large exponents are no obstacle: beyond one in absolute value every base leaves
the range before the exponent is 64, and for the other bases the parity of the exponent is enough.

The function `pow` does not raise to exponents above `Builtin.largestExponent`. It reports an overflow
for them whatever the base, so for the bases `-1`, `0` and `1` it does so although the power is in
range. Main statement (`pow_exact_iff`): these are the only cases in which `pow` is not exact.
-/

set_option autoImplicit false

namespace Reckoner

namespace Integer

/-- For a base of absolute value at most one, only the parity of a large exponent matters. -/
theorem pow_parity {base : Int} (hbase : base.natAbs ≤ 1) {n : Nat} (hn : 0 < n) :
    base ^ (n % 2 + 2) = base ^ n := by
  have hcases : base = -1 ∨ base = 0 ∨ base = 1 := by omega
  rcases hcases with rfl | rfl | rfl
  · rw [neg_one_pow_eq_pow_mod_two n, pow_add, neg_one_sq, mul_one]
  · rw [zero_pow (by omega), zero_pow (by omega)]
  · rw [one_pow, one_pow]

/-- From the exponent 64 on, a base beyond one leaves the range. -/
theorem pow_out_of_range {base : Int} (hbase : 1 < base.natAbs) {n : Nat} (hn : 64 ≤ n) :
    ¬ (least ≤ base ^ n ∧ base ^ n ≤ greatest) := by
  have hlarge : 2 ^ 64 ≤ (base ^ n).natAbs := by
    rw [Int.natAbs_pow]
    calc 2 ^ 64 ≤ 2 ^ n := Nat.pow_le_pow_right (by decide) hn
      _ ≤ base.natAbs ^ n := Nat.pow_le_pow_left hbase n
  rintro ⟨hlow, hhigh⟩
  simp only [least, greatest] at hlow hhigh
  omega

/-- The power is the exact one, if that is in range. -/
theorem pow?_eq (base : Int64) (n : Nat) : pow? base n = fit? (base.toInt ^ n) := by
  by_cases hsmall : n < 64
  · rw [pow?, if_pos hsmall]
    rfl
  rw [pow?, if_neg hsmall]
  by_cases hbase : base.toInt.natAbs ≤ 1
  · rw [if_pos hbase, ← pow_parity hbase (by omega)]
    rfl
  · rw [if_neg hbase]
    exact (fit?_eq_none_iff.2 (pow_out_of_range (by omega) (by omega))).symm

/-- The powers of a base of absolute value at most one are in range. -/
theorem pow_in_range {base : Int} (hbase : base.natAbs ≤ 1) (n : Nat) :
    least ≤ base ^ n ∧ base ^ n ≤ greatest := by
  have hsmall : (base ^ n).natAbs ≤ 1 := by
    rw [Int.natAbs_pow, ← Nat.one_pow n]
    exact Nat.pow_le_pow_left hbase n
  simp only [least, greatest]
  omega

end Integer

namespace Builtin

/-- What an exact power owes: the integer that the power is, and an overflow exactly if the power is
out of range. -/
structure ExactPower (base exponent : Int64) (result : Except EvalError Value) : Prop where
  value : ∀ m : Int64, result = .ok (.int m) ↔ m.toInt = base.toInt ^ exponent.toInt.toNat
  overflow : result = .error (.overflow (.function .pow)) ↔
    ¬ (Integer.least ≤ base.toInt ^ exponent.toInt.toNat ∧
      base.toInt ^ exponent.toInt.toNat ≤ Integer.greatest)

/-- An exact whole number that is fitted to the integers makes an exact power. -/
theorem exactPower_checked (base exponent : Int64) :
    ExactPower base exponent (checked .pow (Integer.fit? (base.toInt ^ exponent.toInt.toNat))) := by
  refine ⟨?_, ?_⟩
  · intro m
    rw [← Integer.fit?_eq_some_iff]
    cases Integer.fit? (base.toInt ^ exponent.toInt.toNat) <;> simp [checked]
  · rw [← Integer.fit?_eq_none_iff]
    cases Integer.fit? (base.toInt ^ exponent.toInt.toNat) <;> simp [checked]

theorem call_pow {base exponent : Int64} (h : 0 ≤ exponent.toInt) :
    Builtin.pow.call [.int base, .int exponent] = integerPower base exponent.toInt.toNat :=
  if_pos h

theorem integerPower_of_le {n : Nat} (h : n ≤ largestExponent) (base : Int64) :
    integerPower base n = checked .pow (Integer.fit? (base.toInt ^ n)) := by
  rw [integerPower, if_pos h, Integer.pow?_eq]

theorem integerPower_of_lt {n : Nat} (h : largestExponent < n) (base : Int64) :
    integerPower base n = .error (.overflow (.function .pow)) := by
  rw [integerPower, if_neg (Nat.not_le.2 h)]
  rfl

end Builtin

/-- The power of integers to an exponent that is not negative is exact unless the exponent is above the
largest and the base is `-1`, `0` or `1`. Above the largest exponent there is an overflow whatever the
base. -/
theorem pow_exact_iff (base exponent : Int64) (h : 0 ≤ exponent.toInt) :
    (Builtin.ExactPower base exponent (Builtin.pow.call [.int base, .int exponent]) ↔
      exponent.toInt ≤ Builtin.largestExponent ∨ 1 < base.toInt.natAbs) ∧
    (Builtin.largestExponent < exponent.toInt →
      Builtin.pow.call [.int base, .int exponent] = .error (.overflow (.function .pow))) := by
  rw [Builtin.call_pow h]
  have hexact := Builtin.exactPower_checked base exponent
  by_cases hle : exponent.toInt ≤ Builtin.largestExponent
  · rw [Builtin.integerPower_of_le (by omega)]
    exact ⟨iff_of_true hexact (.inl hle), fun hlt => absurd hle (Int.not_le.2 hlt)⟩
  · have hlarge : Builtin.largestExponent < exponent.toInt.toNat := by omega
    rw [Builtin.integerPower_of_lt hlarge]
    refine ⟨?_, fun _ => rfl⟩
    constructor
    · -- The overflow is reported for a power in range if the base is at most one.
      intro h'
      by_contra hbase
      exact h'.overflow.1 rfl (Integer.pow_in_range (by omega) _)
    · rintro (hexponent | hbase)
      · exact absurd hexponent hle
      · -- Any other base has left the range long before.
        have hlargest : 64 ≤ Builtin.largestExponent := by decide
        have hlong := Nat.le_trans hlargest (Nat.le_of_lt hlarge)
        rwa [Integer.fit?_eq_none_iff.2 (Integer.pow_out_of_range hbase hlong)] at hexact

/-- The power that is the least integer, and the largest exponent. -/
theorem pow_exact_leastInteger :
    Builtin.pow.call [.int (-2), .int 63] = .ok (.int Int64.minValue) ∧
    Builtin.pow.call [.int (-2), .int 64] = .error (.overflow (.function .pow)) ∧
    Builtin.pow.call [.int (-1), .int 4294967295] = .ok (.int (-1)) := by
  refine ⟨?_, ?_, ?_⟩
  · have hexact := (pow_exact_iff (-2) 63 (by decide)).1.2 (.inr (by decide))
    exact (hexact.value _).2 (by decide)
  · have hexact := (pow_exact_iff (-2) 64 (by decide)).1.2 (.inr (by decide))
    exact hexact.overflow.2 (by decide)
  · have hexact := (pow_exact_iff (-1) 4294967295 (by decide)).1.2 (.inl (by decide))
    apply (hexact.value _).2
    have hodd : Odd (4294967295 : Int64).toInt.toNat := by decide
    exact (Odd.neg_one_pow hodd).symm

/-- One to the exponent above the largest is one, and `pow` reports an overflow. -/
theorem pow_not_exact_one :
    ¬ Builtin.ExactPower 1 4294967296 (Builtin.pow.call [.int 1, .int 4294967296]) ∧
    Builtin.pow.call [.int 1, .int 4294967296] = .error (.overflow (.function .pow)) ∧
    (1 : Int64).toInt ^ (4294967296 : Int64).toInt.toNat = 1 := by
  have hcall : Builtin.pow.call [.int 1, .int 4294967296] =
      .error (.overflow (.function .pow)) := by
    rw [Builtin.call_pow (by decide)]
    exact Builtin.integerPower_of_lt (by decide) 1
  refine ⟨?_, hcall, one_pow _⟩
  intro hexact
  exact hexact.overflow.1 hcall (Integer.pow_in_range (by decide) _)

end Reckoner
