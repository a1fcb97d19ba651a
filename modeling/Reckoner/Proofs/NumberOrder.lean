import Reckoner.Proofs.Integer
import Reckoner.Proofs.MonotoneRounding
import Reckoner.Value.Basic

/-!
# The order of numbers

Two integers are compared exactly and any other pair as doubles. Because rounding keeps the order, the
two rules can be written as one (`compare?_eq`): the nearest doubles decide, and only where they are
the same does it matter whether both numbers are integers.

From this the strict order is transitive, whatever mix of integers and doubles is compared
(`compare?_trans`). Being equal is not: two integers may have the same nearest double.
-/

set_option autoImplicit false

namespace Reckoner.Number

/-- Any integer, or any double but one that is no number. -/
def Proper : Number → Prop
  | .int _ => True
  | .float x => x.isNaN = false

theorem proper_int (n : Int64) : (Number.int n).Proper :=
  trivial

/-- The place of the nearest double among the doubles. -/
def rank (n : Number) : Int :=
  Binary64.rank n.toFloat

/-- What decides between two numbers with the same nearest double: their exact values if both are
integers, else nothing. -/
def tieBreak : Number → Number → Ordering
  | .int a, .int b => compare a.toInt b.toInt
  | _, _ => .eq

theorem natAbs_toInt_le (n : Int64) : n.toInt.natAbs ≤ 2 ^ 63 := by
  have hrange := Integer.toInt_mem_range n
  simp only [Integer.least, Integer.greatest] at hrange
  omega

theorem rank_int_mono {a b : Int64} (h : a.toInt ≤ b.toInt) : rank (.int a) ≤ rank (.int b) :=
  Binary64.rank_ofInt_mono (natAbs_toInt_le a) (natAbs_toInt_le b) h

/-- Integers up to `2 ^ 53` in absolute value have different nearest doubles. -/
theorem rank_int_inj {a b : Int64} (ha : a.toInt.natAbs ≤ 2 ^ 53) (hb : b.toInt.natAbs ≤ 2 ^ 53)
    (h : rank (.int a) = rank (.int b)) : a = b := by
  apply Int64.toInt_inj.1
  rcases lt_trichotomy a.toInt b.toInt with hlt | heq | hgt
  · exact absurd h (Binary64.rank_ofInt_strictMono ha hb hlt).ne
  · exact heq
  · exact absurd h (Binary64.rank_ofInt_strictMono hb ha hgt).ne'

/-- The nearest double of a proper number is a number. -/
theorem Proper.isNaN_toFloat {n : Number} (h : n.Proper) : Binary64.isNaN n.toFloat = false := by
  cases n with
  | int n =>
    have hfinite := Binary64.isFinite_ofInt (natAbs_toInt_le n)
    exact decide_eq_false (Nat.not_lt.2 (Nat.le_of_lt (of_decide_eq_true hfinite)))
  | float x => rw [toFloat, Binary64.isNaN_eq, h]

theorem compare?_of_proper {m n : Number} (hm : m.Proper) (hn : n.Proper) :
    Binary64.compare? m.toFloat n.toFloat = some (compare m.rank n.rank) := by
  rw [Binary64.compare?, hm.isNaN_toFloat, hn.isNaN_toFloat]
  rfl

/-- The exact order of two integers refines that of the nearest doubles. -/
theorem compare_rank_then (a b : Int64) :
    (compare (rank (.int a)) (rank (.int b))).then (compare a.toInt b.toInt) =
      compare a.toInt b.toInt := by
  rcases lt_trichotomy a.toInt b.toInt with hlt | heq | hgt
  · rw [compare_lt_iff_lt.2 hlt, Ordering.then_eq_lt, compare_lt_iff_lt, compare_eq_iff_eq]
    exact (rank_int_mono hlt.le).lt_or_eq.imp_right fun h => ⟨h, rfl⟩
  · rw [Int64.toInt_inj.1 heq, compare_eq_iff_eq.2 rfl]
    rfl
  · rw [compare_gt_iff_gt.2 hgt, Ordering.then_eq_gt, compare_gt_iff_gt, compare_eq_iff_eq]
    exact (rank_int_mono hgt.le).lt_or_eq.imp_right fun h => ⟨h.symm, rfl⟩

/-- **One rule for all pairs.** The order is that of the nearest doubles, with ties between integers
broken exactly. -/
theorem compare?_eq {m n : Number} (hm : m.Proper) (hn : n.Proper) :
    m.compare? n = some ((compare m.rank n.rank).then (m.tieBreak n)) := by
  have hmixed : Binary64.compare? m.toFloat n.toFloat =
      some ((compare m.rank n.rank).then .eq) := by
    rw [compare?_of_proper hm hn, Ordering.then_eq]
  cases m with
  | int a =>
    cases n with
    | int b => exact congrArg some (compare_rank_then a b).symm
    | float y => exact hmixed
  | float x =>
    cases n with
    | int b => exact hmixed
    | float y => exact hmixed

theorem exists_compare? {m n : Number} (hm : m.Proper) (hn : n.Proper) : ∃ o, m.compare? n = some o :=
  ⟨_, compare?_eq hm hn⟩

/-- Two numbers are equal if they have the same nearest double and are not different integers. -/
theorem compare?_eq_eq_iff {m n : Number} (hm : m.Proper) (hn : n.Proper) :
    m.compare? n = some .eq ↔ m.rank = n.rank ∧ m.tieBreak n = .eq := by
  rw [compare?_eq hm hn, Option.some.injEq, Ordering.then_eq_eq, compare_eq_iff_eq]

theorem compare?_eq_lt_iff {m n : Number} (hm : m.Proper) (hn : n.Proper) :
    m.compare? n = some .lt ↔ m.rank < n.rank ∨ m.rank = n.rank ∧ m.tieBreak n = .lt := by
  rw [compare?_eq hm hn, Option.some.injEq, Ordering.then_eq_lt, compare_lt_iff_lt,
    compare_eq_iff_eq]

theorem compare?_self {n : Number} (h : n.Proper) : n.compare? n = some .eq := by
  rw [compare?_eq_eq_iff h h]
  refine ⟨rfl, ?_⟩
  cases n with
  | int a => exact compare_eq_iff_eq.2 rfl
  | float x => rfl

/-! ## The other way round -/

theorem tieBreak_swap (m n : Number) : n.tieBreak m = (m.tieBreak n).swap := by
  cases m with
  | int a =>
    cases n with
    | int b =>
      change compare b.toInt a.toInt = (compare a.toInt b.toInt).swap
      exact Std.OrientedCmp.eq_swap
    | float y => rfl
  | float x => cases n <;> rfl

/-- The order of two numbers taken the other way round. -/
theorem compare?_swap {m n : Number} (hm : m.Proper) (hn : n.Proper) {o : Ordering}
    (h : m.compare? n = some o) : n.compare? m = some o.swap := by
  rw [compare?_eq hm hn, Option.some.injEq] at h
  have hrank : compare n.rank m.rank = (compare m.rank n.rank).swap := Std.OrientedCmp.eq_swap
  rw [compare?_eq hn hm, hrank, tieBreak_swap, ← Ordering.swap_then, h]

/-! ## Transitivity -/

/-- Exact values are transitive, and nothing else decides between equal doubles. -/
theorem tieBreak_trans {m n p : Number} (h : m.tieBreak n = .lt) (h' : n.tieBreak p = .lt) :
    m.tieBreak p = .lt := by
  cases m with
  | float x => cases h
  | int a =>
    cases n with
    | float y => cases h
    | int b =>
      cases p with
      | float z => cases h'
      | int c =>
        have hab : a.toInt < b.toInt := compare_lt_iff_lt.1 h
        exact compare_lt_iff_lt.2 (hab.trans (compare_lt_iff_lt.1 h'))

theorem compare?_lt_trans {m n p : Number} (hm : m.Proper) (hn : n.Proper) (hp : p.Proper)
    (h : m.compare? n = some .lt) (h' : n.compare? p = some .lt) : m.compare? p = some .lt := by
  rw [compare?_eq_lt_iff hm hn] at h
  rw [compare?_eq_lt_iff hn hp] at h'
  rw [compare?_eq_lt_iff hm hp]
  -- The nearest doubles never go down, and one step up is enough.
  rcases h with hlt | ⟨heq, htie⟩
  · rcases h' with hlt' | ⟨heq', -⟩
    · exact .inl (hlt.trans hlt')
    · exact .inl (hlt.trans_eq heq')
  · rcases h' with hlt' | ⟨heq', htie'⟩
    · exact .inl (heq.trans_lt hlt')
    · exact .inr ⟨heq.trans heq', tieBreak_trans htie htie'⟩

/-- **The strict orders are transitive**, in both directions. -/
theorem compare?_trans {m n p : Number} (hm : m.Proper) (hn : n.Proper) (hp : p.Proper)
    {o : Ordering} (ho : o ≠ .eq) (h : m.compare? n = some o) (h' : n.compare? p = some o) :
    m.compare? p = some o := by
  cases o with
  | lt => exact compare?_lt_trans hm hn hp h h'
  | eq => exact absurd rfl ho
  | gt =>
    have hswap := compare?_lt_trans hp hn hm (compare?_swap hn hp h') (compare?_swap hm hn h)
    exact compare?_swap hp hm hswap

end Reckoner.Number
