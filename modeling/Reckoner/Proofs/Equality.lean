import Reckoner.Proofs.FiniteResults
import Reckoner.Proofs.NumberOrder

/-!
# Equality of values

Equality of the language compares an integer with a double through the nearest double of the integer.
It is reflexive and symmetric, at any depth of lists, if no double in the values is no number. It is
not transitive: `9007199254740993` and `9007199254740992` are different integers, and both are equal to
the double `2 ^ 53` (`equals_not_transitive`).

Main statement (`equals_laws`): this is the only way in which transitivity fails. If `a` equals `b` and
`b` equals `c`, then `a` equals `c` exactly if there is no place where `a` and `c` hold different
integers, not both up to `2 ^ 53`, and `b` holds a double.
-/

set_option autoImplicit false

namespace Reckoner.Value

/-- No double in the value is one that is no number. -/
def NoNaN (v : Value) : Prop :=
  ∀ x ∈ v.floats, x.isNaN = false

@[simp]
theorem noNaN_list {items : List Value} : (Value.list items).NoNaN ↔ ∀ v ∈ items, v.NoNaN :=
  forall_floats_list

@[simp]
theorem noNaN_toValue {n : Number} : n.toValue.NoNaN ↔ n.Proper := by
  cases n <;> simp [NoNaN, floats, Number.toValue, Number.Proper]

/-- At some place, the same in all three values, the first and the last hold different integers, not
both up to `2 ^ 53` in absolute value, and the middle one holds a double. -/
inductive Blurred : Value → Value → Value → Prop
  | int {m n : Int64} (x : Float) : m ≠ n → 2 ^ 53 < max m.toInt.natAbs n.toInt.natAbs →
      Blurred (.int m) (.float x) (.int n)
  | item {as bs cs : List Value} {a b c : Value} (i : Nat) : as[i]? = some a → bs[i]? = some b →
      cs[i]? = some c → Blurred a b c → Blurred (.list as) (.list bs) (.list cs)

/-! ## What equals a value of each kind -/

theorem equals_toValue (m n : Number) :
    m.toValue.equals n.toValue = true ↔ m.compare? n = some .eq := by
  cases m <;> cases n <;> simp [equals, Number.toValue]

theorem equals_number_iff {m : Number} {b : Value} :
    m.toValue.equals b = true ↔ ∃ n : Number, b = n.toValue ∧ m.compare? n = some .eq := by
  constructor
  · intro h
    have hb : ∃ n : Number, b = n.toValue := by
      cases b with
      | int n => exact ⟨.int n, rfl⟩
      | float x => exact ⟨.float x, rfl⟩
      | text | bool | list => cases m <;> simp [equals, Number.toValue] at h
    obtain ⟨n, rfl⟩ := hb
    exact ⟨n, rfl, (equals_toValue m n).1 h⟩
  · rintro ⟨n, rfl, h⟩
    exact (equals_toValue m n).2 h

theorem equals_text_iff {s : String} {b : Value} : (Value.text s).equals b = true ↔ .text s = b := by
  cases b <;> simp [equals]

theorem equals_bool_iff {t : Bool} {b : Value} : (Value.bool t).equals b = true ↔ .bool t = b := by
  cases b <;> simp [equals]

theorem equals_list_iff {as : List Value} {b : Value} :
    (Value.list as).equals b = true ↔ ∃ bs, b = .list bs ∧ equalsAll as bs = true := by
  cases b <;> simp [equals]

theorem equalsAll_cons_iff {a : Value} {as bs : List Value} :
    equalsAll (a :: as) bs = true ↔
      ∃ b bs', bs = b :: bs' ∧ a.equals b = true ∧ equalsAll as bs' = true := by
  cases bs <;> simp [equalsAll]

theorem equalsAll_nil_iff {bs : List Value} : equalsAll [] bs = true ↔ bs = [] := by
  cases bs <;> simp [equalsAll]

/-! ## Reflexivity and symmetry -/

theorem equals_self_number {n : Number} (h : n.toValue.NoNaN) :
    n.toValue.equals n.toValue = true := by
  rw [noNaN_toValue] at h
  exact (equals_toValue n n).2 (Number.compare?_self h)

mutual

theorem equals_self : ∀ v : Value, v.NoNaN → v.equals v = true
  | .int n, h => equals_self_number (n := .int n) h
  | .float x, h => equals_self_number (n := .float x) h
  | .text _, _ => equals_text_iff.2 rfl
  | .bool _, _ => equals_bool_iff.2 rfl
  | .list items, h => equals_list_iff.2 ⟨items, rfl, equalsAll_self items (noNaN_list.1 h)⟩

theorem equalsAll_self : ∀ vs : List Value, (∀ v ∈ vs, v.NoNaN) → equalsAll vs vs = true
  | [], _ => equalsAll_nil_iff.2 rfl
  | v :: vs, h => by
    rw [List.forall_mem_cons] at h
    exact equalsAll_cons_iff.2 ⟨v, vs, rfl, equals_self v h.1, equalsAll_self vs h.2⟩

end

theorem equals_symm_number {m : Number} {b : Value} (hm : m.toValue.NoNaN) (hb : b.NoNaN)
    (h : m.toValue.equals b = true) : b.equals m.toValue = true := by
  obtain ⟨n, rfl, hcompare⟩ := equals_number_iff.1 h
  rw [noNaN_toValue] at hm hb
  exact (equals_toValue n m).2 (Number.compare?_swap hm hb hcompare)

mutual

theorem equals_symm : ∀ (a : Value) {b : Value}, a.NoNaN → b.NoNaN → a.equals b = true →
    b.equals a = true
  | .int m, _, ha, hb, h => equals_symm_number (m := .int m) ha hb h
  | .float x, _, ha, hb, h => equals_symm_number (m := .float x) ha hb h
  | .text _, _, _, _, h => by
    obtain rfl := equals_text_iff.1 h
    exact h
  | .bool _, _, _, _, h => by
    obtain rfl := equals_bool_iff.1 h
    exact h
  | .list as, _, ha, hb, h => by
    obtain ⟨bs, rfl, hall⟩ := equals_list_iff.1 h
    exact equals_list_iff.2 ⟨as, rfl, equalsAll_symm as (noNaN_list.1 ha) (noNaN_list.1 hb) hall⟩

theorem equalsAll_symm : ∀ (as : List Value) {bs : List Value}, (∀ v ∈ as, v.NoNaN) →
    (∀ v ∈ bs, v.NoNaN) → equalsAll as bs = true → equalsAll bs as = true
  | [], _, _, _, h => by
    obtain rfl := equalsAll_nil_iff.1 h
    exact h
  | a :: as, _, ha, hb, h => by
    obtain ⟨b, bs, rfl, hhead, htail⟩ := equalsAll_cons_iff.1 h
    rw [List.forall_mem_cons] at ha hb
    exact equalsAll_cons_iff.2
      ⟨a, as, rfl, equals_symm a ha.1 hb.1 hhead, equalsAll_symm as ha.2 hb.2 htail⟩

end

/-! ## Transitivity -/

/-- Only different integers are blurred. -/
theorem Blurred.tieBreak_ne {m p : Number} {b : Value} (h : Blurred m.toValue b p.toValue) :
    m.tieBreak p ≠ .eq := by
  cases m with
  | float x => cases h
  | int j =>
    cases p with
    | float z => cases h
    | int k =>
      cases h with
      | int _ hne _ =>
        intro htie
        exact hne (Int64.toInt_inj.1 (compare_eq_iff_eq.1 htie))

/-- Different integers that equal the same number equal a double, and are not both up to `2 ^ 53`. -/
theorem blurred_of_ne {j k : Int64} {n : Number} (hn : n.Proper)
    (h : (Number.int j).compare? n = some .eq) (h' : n.compare? (.int k) = some .eq) (hne : j ≠ k) :
    Blurred (.int j) n.toValue (.int k) := by
  have hjn := (Number.compare?_eq_eq_iff (Number.proper_int j) hn).1 h
  have hnk := (Number.compare?_eq_eq_iff hn (Number.proper_int k)).1 h'
  cases n with
  | int i =>
    -- Between integers the comparison is exact.
    have hji : j.toInt = i.toInt := compare_eq_iff_eq.1 hjn.2
    have hik : i.toInt = k.toInt := compare_eq_iff_eq.1 hnk.2
    exact absurd (Int64.toInt_inj.1 (hji.trans hik)) hne
  | float x =>
    apply Blurred.int x hne
    by_contra hsmall
    have hbounds := max_le_iff.1 (not_lt.1 hsmall)
    exact hne (Number.rank_int_inj hbounds.1 hbounds.2 (hjn.1.trans hnk.1))

theorem blurred_of_tieBreak {m n p : Number} (hn : n.Proper) (h : m.compare? n = some .eq)
    (h' : n.compare? p = some .eq) (htie : m.tieBreak p ≠ .eq) :
    Blurred m.toValue n.toValue p.toValue := by
  cases m with
  | float x => exact absurd rfl htie
  | int j =>
    cases p with
    | float z => exact absurd rfl htie
    | int k =>
      apply blurred_of_ne hn h h'
      rintro rfl
      exact htie (compare_eq_iff_eq.2 rfl)

theorem equals_trans_iff_number {m : Number} {b c : Value} (hm : m.toValue.NoNaN) (hb : b.NoNaN)
    (hc : c.NoNaN) (h : m.toValue.equals b = true) (h' : b.equals c = true) :
    m.toValue.equals c = true ↔ ¬ Blurred m.toValue b c := by
  obtain ⟨n, rfl, hmn⟩ := equals_number_iff.1 h
  obtain ⟨p, rfl, hnp⟩ := equals_number_iff.1 h'
  rw [noNaN_toValue] at hm hb hc
  -- All three have the same nearest double, so only the exact values of integers are left.
  have hrank : m.rank = p.rank :=
    ((Number.compare?_eq_eq_iff hm hb).1 hmn).1.trans ((Number.compare?_eq_eq_iff hb hc).1 hnp).1
  rw [equals_toValue, Number.compare?_eq_eq_iff hm hc, and_iff_right hrank]
  constructor
  · intro htie hblurred
    exact hblurred.tieBreak_ne htie
  · intro hblurred
    by_contra htie
    exact hblurred (blurred_of_tieBreak hb hmn hnp htie)

theorem blurred_list_cons {a b c : Value} {as bs cs : List Value} :
    Blurred (.list (a :: as)) (.list (b :: bs)) (.list (c :: cs)) ↔
      Blurred a b c ∨ Blurred (.list as) (.list bs) (.list cs) := by
  constructor
  · intro h
    cases h with
    | item i ha hb hc h =>
      cases i with
      | zero =>
        cases ha
        cases hb
        cases hc
        exact .inl h
      | succ i => exact .inr (.item i ha hb hc h)
  · rintro (h | h)
    · exact .item 0 rfl rfl rfl h
    · cases h with
      | item i ha hb hc h => exact .item (i + 1) ha hb hc h

mutual

theorem equals_trans_iff : ∀ (a : Value) {b c : Value}, a.NoNaN → b.NoNaN → c.NoNaN →
    a.equals b = true → b.equals c = true → (a.equals c = true ↔ ¬ Blurred a b c)
  | .int m, _, _, ha, hb, hc, h, h' => equals_trans_iff_number (m := .int m) ha hb hc h h'
  | .float x, _, _, ha, hb, hc, h, h' => equals_trans_iff_number (m := .float x) ha hb hc h h'
  | .text _, _, _, _, _, _, h, h' => by
    obtain rfl := equals_text_iff.1 h
    exact iff_of_true h' (by rintro ⟨⟩)
  | .bool _, _, _, _, _, _, h, h' => by
    obtain rfl := equals_bool_iff.1 h
    exact iff_of_true h' (by rintro ⟨⟩)
  | .list as, _, _, ha, hb, hc, h, h' => by
    obtain ⟨bs, rfl, hall⟩ := equals_list_iff.1 h
    obtain ⟨cs, rfl, hall'⟩ := equals_list_iff.1 h'
    rw [noNaN_list] at ha hb hc
    exact equalsAll_trans_iff as ha hb hc hall hall'

theorem equalsAll_trans_iff : ∀ (as : List Value) {bs cs : List Value}, (∀ v ∈ as, v.NoNaN) →
    (∀ v ∈ bs, v.NoNaN) → (∀ v ∈ cs, v.NoNaN) → equalsAll as bs = true → equalsAll bs cs = true →
      (equalsAll as cs = true ↔ ¬ Blurred (.list as) (.list bs) (.list cs))
  | [], _, _, _, _, _, h, h' => by
    obtain rfl := equalsAll_nil_iff.1 h
    refine iff_of_true h' ?_
    rintro (_ | ⟨i, ha, -⟩)
    cases ha
  | a :: as, _, _, ha, hb, hc, h, h' => by
    obtain ⟨b, bs, rfl, hhead, htail⟩ := equalsAll_cons_iff.1 h
    obtain ⟨c, cs, rfl, hhead', htail'⟩ := equalsAll_cons_iff.1 h'
    rw [List.forall_mem_cons] at ha hb hc
    rw [blurred_list_cons, not_or, ← equals_trans_iff a ha.1 hb.1 hc.1 hhead hhead',
      ← equalsAll_trans_iff as ha.2 hb.2 hc.2 htail htail', equalsAll, Bool.and_eq_true]

end

end Reckoner.Value

namespace Reckoner

/-- **Laws of equality.** On values without doubles that are no numbers, equality of the language is
reflexive and symmetric. If `a` equals `b` and `b` equals `c`, then `a` equals `c` exactly if there is
no place where the double in `b` blurs two different integers of `a` and `c`. -/
theorem equals_laws :
    (∀ a : Value, a.NoNaN → a.equals a = true) ∧
    (∀ a b : Value, a.NoNaN → b.NoNaN → a.equals b = true → b.equals a = true) ∧
    (∀ a b c : Value, a.NoNaN → b.NoNaN → c.NoNaN → a.equals b = true → b.equals c = true →
      (a.equals c = true ↔ ¬ Value.Blurred a b c)) := by
  refine ⟨Value.equals_self, ?_, ?_⟩
  · intro a b ha hb h
    exact Value.equals_symm a ha hb h
  · intro a b c ha hb hc h h'
    exact Value.equals_trans_iff a ha hb hc h h'

/-- The double `2 ^ 53`. -/
def twoTo53 : Float :=
  Float.ofBits 0x4340000000000000

/-- Two different integers that equal the same double. -/
theorem equals_not_transitive :
    twoTo53.isNaN = false ∧
    (Value.int 9007199254740993).equals (.float twoTo53) = true ∧
    (Value.float twoTo53).equals (.int 9007199254740992) = true ∧
    (Value.int 9007199254740993).equals (.int 9007199254740992) = false := by
  decide +kernel

/-- A text, and an integer that is one more than `2 ^ 53`. -/
def oddList : Value :=
  .list [.text "n", .int 9007199254740993]

/-- The same text, and the double `2 ^ 53`. -/
def roundList : Value :=
  .list [.text "n", .float twoTo53]

/-- The same text, and the integer `2 ^ 53`. -/
def evenList : Value :=
  .list [.text "n", .int 9007199254740992]

/-- Two lists that are equal to a third, which blurs their second items. -/
theorem equals_laws_blurredLists :
    oddList.NoNaN ∧ roundList.NoNaN ∧ evenList.NoNaN ∧
    oddList.equals roundList = true ∧ roundList.equals evenList = true ∧
    roundList.equals roundList = true ∧ roundList.equals oddList = true ∧
    Value.Blurred oddList roundList evenList ∧ ¬ oddList.equals evenList = true := by
  obtain ⟨hrefl, hsymm, htrans⟩ := equals_laws
  have hnumber : twoTo53.isNaN = false := by decide +kernel
  have hodd : oddList.NoNaN := List.forall_mem_nil _
  have hround : roundList.NoNaN := List.forall_mem_singleton.2 hnumber
  have heven : evenList.NoNaN := List.forall_mem_nil _
  have h : oddList.equals roundList = true := by decide +kernel
  have h' : roundList.equals evenList = true := by decide +kernel
  have hblurred : Value.Blurred oddList roundList evenList :=
    .item 1 rfl rfl rfl (.int twoTo53 (by decide) (by decide))
  refine ⟨hodd, hround, heven, h, h', hrefl _ hround, hsymm _ _ hodd hround h, hblurred, ?_⟩
  intro hequal
  exact (htrans _ _ _ hodd hround heven h h').1 hequal hblurred

end Reckoner
