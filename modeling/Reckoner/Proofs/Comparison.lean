import Reckoner.Evaluation
import Reckoner.Proofs.Equality

/-!
# Comparisons agree with each other

The language has two tests of equality and four of order. Equality is defined for any two values, order
for two numbers and for two texts. Where order is defined, every comparison is a question about one
`Ordering` (`apply_comparison`), so the six answers fit together; outside, the four tests of order fail.

Main statement (`comparisons_coherent`): of less, equal and greater exactly one holds, the other three
comparisons are what their names say, less and greater are each other's converse, and less is transitive,
also where integers beyond `2 ^ 53` are mixed with doubles.
-/

set_option autoImplicit false

namespace Reckoner

/-- What the language can order: numbers among themselves, and texts among themselves. -/
inductive Family where
  | numbers
  | texts
deriving DecidableEq

/-- The family that values of a kind belong to. -/
def Kind.family? : Kind → Option Family
  | .int => some .numbers
  | .float => some .numbers
  | .text => some .texts
  | .bool => none
  | .list => none

namespace Value

/-- The value belongs to the family, and is no double that is no number. -/
def InFamily (family : Family) (v : Value) : Prop :=
  v.kind.family? = some family ∧ v.NoNaN

/-- The order of two values of one family. -/
def order? : Value → Value → Option Ordering
  | .text s, .text t => some (compare s t)
  | a, b =>
    match a.number?, b.number? with
    | some m, some n => m.compare? n
    | _, _ => none

theorem InFamily.exists_number {v : Value} (h : v.InFamily .numbers) :
    ∃ n : Number, v = n.toValue ∧ n.Proper := by
  obtain ⟨hkind, hnumber⟩ := h
  cases v with
  | int n => exact ⟨.int n, rfl, Number.proper_int n⟩
  | float x => exact ⟨.float x, rfl, noNaN_toValue.1 hnumber⟩
  | text | bool | list => simp [kind, Kind.family?] at hkind

theorem InFamily.exists_text {v : Value} (h : v.InFamily .texts) : ∃ s : String, v = .text s := by
  obtain ⟨hkind, -⟩ := h
  cases v with
  | text s => exact ⟨s, rfl⟩
  | int | float | bool | list => simp [kind, Kind.family?] at hkind

@[simp]
theorem number?_toValue (n : Number) : n.toValue.number? = some n := by
  cases n <;> rfl

@[simp]
theorem order?_toValue (m n : Number) : m.toValue.order? n.toValue = m.compare? n := by
  cases m <;> cases n <;> rfl

theorem order?_text (s t : String) : (Value.text s).order? (.text t) = some (compare s t) :=
  rfl

section Family

variable {family : Family} {a b c : Value}

theorem InFamily.exists_order (ha : a.InFamily family) (hb : b.InFamily family) :
    ∃ o, a.order? b = some o := by
  cases family with
  | numbers =>
    obtain ⟨m, rfl, hm⟩ := ha.exists_number
    obtain ⟨n, rfl, hn⟩ := hb.exists_number
    rw [order?_toValue]
    exact Number.exists_compare? hm hn
  | texts =>
    obtain ⟨s, rfl⟩ := ha.exists_text
    obtain ⟨t, rfl⟩ := hb.exists_text
    exact ⟨_, order?_text s t⟩

theorem InFamily.order?_swap (ha : a.InFamily family) (hb : b.InFamily family) {o : Ordering}
    (h : a.order? b = some o) : b.order? a = some o.swap := by
  cases family with
  | numbers =>
    obtain ⟨m, rfl, hm⟩ := ha.exists_number
    obtain ⟨n, rfl, hn⟩ := hb.exists_number
    rw [order?_toValue] at h ⊢
    exact Number.compare?_swap hm hn h
  | texts =>
    obtain ⟨s, rfl⟩ := ha.exists_text
    obtain ⟨t, rfl⟩ := hb.exists_text
    rw [order?_text, Option.some.injEq] at h
    rw [order?_text, ← h, ← Std.OrientedCmp.eq_swap]

theorem InFamily.order?_lt_trans (ha : a.InFamily family) (hb : b.InFamily family)
    (hc : c.InFamily family) (h : a.order? b = some .lt) (h' : b.order? c = some .lt) :
    a.order? c = some .lt := by
  cases family with
  | numbers =>
    obtain ⟨m, rfl, hm⟩ := ha.exists_number
    obtain ⟨n, rfl, hn⟩ := hb.exists_number
    obtain ⟨p, rfl, hp⟩ := hc.exists_number
    rw [order?_toValue] at h h' ⊢
    exact Number.compare?_lt_trans hm hn hp h h'
  | texts =>
    obtain ⟨s, rfl⟩ := ha.exists_text
    obtain ⟨t, rfl⟩ := hb.exists_text
    obtain ⟨u, rfl⟩ := hc.exists_text
    rw [order?_text, Option.some.injEq] at h h' ⊢
    exact Std.TransCmp.lt_trans h h'

end Family

end Value

namespace BinaryOp

/-- The operators that test an order. -/
def orderTests : List BinaryOp :=
  [.less, .greater, .lessEqual, .greaterEqual]

/-- The operators that compare. -/
def comparisons : List BinaryOp :=
  .equal :: .notEqual :: orderTests

/-- What a comparison says of two values that stand in an order. -/
def accepts : BinaryOp → Ordering → Bool
  | .equal, o => o.isEq
  | .notEqual, o => o.isNe
  | .less, o => o.isLT
  | .greater, o => o.isGT
  | .lessEqual, o => o.isLE
  | .greaterEqual, o => o.isGE
  | _, _ => false

/-- Between operands with the values `a` and `b`, whatever expressions they are, the operator comes to
the truth value `t`. -/
def Gives (op : BinaryOp) (a b : Value) (t : Bool) : Prop :=
  ∀ (env : Environment) (left right : Expr) (span : Span), left.eval env = .ok a →
    right.eval env = .ok b → (Expr.binary op left right span).eval env = .ok (.bool t)

theorem eval_of_apply {op : BinaryOp} {a b : Value} {env : Environment} {left right : Expr}
    (hleft : left.eval env = .ok a) (hright : right.eval env = .ok b) (span : Span) :
    (Expr.binary op left right span).eval env = op.apply a b := by
  rw [Expr.eval, hleft, hright]

theorem gives_of_apply {op : BinaryOp} {a b : Value} {t : Bool}
    (h : op.apply a b = .ok (.bool t)) : op.Gives a b t := by
  intro env left right span hleft hright
  rw [eval_of_apply hleft hright, h]

theorem apply_of_gives {op : BinaryOp} {a b : Value} {t : Bool} (h : op.Gives a b t) :
    op.apply a b = .ok (.bool t) :=
  -- Every value is that of a literal.
  h .empty (.literal a ⟨0, 0⟩) (.literal b ⟨0, 0⟩) ⟨0, 0⟩ rfl rfl

theorem ordered_text (op : BinaryOp) (test : Ordering → Bool) (s t : String) :
    ordered op test (.text s) (.text t) = .ok (.bool (test (compare s t))) :=
  rfl

theorem ordered_toValue (op : BinaryOp) (test : Ordering → Bool) (m n : Number) :
    ordered op test m.toValue n.toValue = .ok (.bool ((m.compare? n).any test)) := by
  cases m <;> cases n <;> rfl

section Family

variable {family : Family} {a b : Value} (ha : a.InFamily family) (hb : b.InFamily family)
  {o : Ordering} (h : a.order? b = some o)

include ha hb h

/-- Within a family, equality is one of the three orders. -/
theorem equals_of_order? : a.equals b = o.isEq := by
  rw [Bool.eq_iff_iff, Ordering.isEq_iff_eq_eq]
  cases family with
  | numbers =>
    obtain ⟨m, rfl, -⟩ := ha.exists_number
    obtain ⟨n, rfl, -⟩ := hb.exists_number
    rw [Value.order?_toValue] at h
    rw [Value.equals_toValue, h, Option.some.injEq]
  | texts =>
    obtain ⟨s, rfl⟩ := ha.exists_text
    obtain ⟨t, rfl⟩ := hb.exists_text
    rw [Value.order?_text, Option.some.injEq] at h
    rw [Value.equals_text_iff, Value.text.injEq, ← h, Std.LawfulEqCmp.compare_eq_iff_eq]

/-- A test of order looks at the order. -/
theorem ordered_of_order? (op : BinaryOp) (test : Ordering → Bool) :
    ordered op test a b = .ok (.bool (test o)) := by
  cases family with
  | numbers =>
    obtain ⟨m, rfl, -⟩ := ha.exists_number
    obtain ⟨n, rfl, -⟩ := hb.exists_number
    rw [Value.order?_toValue] at h
    rw [ordered_toValue, h, Option.any_some]
  | texts =>
    obtain ⟨s, rfl⟩ := ha.exists_text
    obtain ⟨t, rfl⟩ := hb.exists_text
    rw [Value.order?_text, Option.some.injEq] at h
    rw [ordered_text, h]

/-- Within a family every comparison is a question about the order. -/
theorem apply_comparison {op : BinaryOp} (hop : op ∈ comparisons) :
    op.apply a b = .ok (.bool (op.accepts o)) := by
  have hequal := equals_of_order? ha hb h
  cases op with
  | equal => rw [apply, hequal, accepts]
  | notEqual =>
    rw [apply, hequal, accepts]
    cases o <;> rfl
  | less => exact ordered_of_order? ha hb h .less Ordering.isLT
  | greater => exact ordered_of_order? ha hb h .greater Ordering.isGT
  | lessEqual => exact ordered_of_order? ha hb h .lessEqual Ordering.isLE
  | greaterEqual => exact ordered_of_order? ha hb h .greaterEqual Ordering.isGE
  | add | sub | mul | div | mod => exact absurd hop (by decide)

end Family

/-- Less holds exactly if the order is that. -/
theorem order?_of_less {family : Family} {a b : Value} (ha : a.InFamily family)
    (hb : b.InFamily family) (h : BinaryOp.less.Gives a b true) : a.order? b = some .lt := by
  obtain ⟨o, ho⟩ := ha.exists_order hb
  have happly := apply_of_gives h
  rw [apply_comparison ha hb ho (by decide)] at happly
  cases o with
  | lt => exact ho
  | eq => cases happly
  | gt => cases happly

/-- Outside the families a test of order fails, and says for which kinds. -/
theorem apply_orderTest_of_mismatch {op : BinaryOp} (hop : op ∈ orderTests) {a b : Value}
    (h : ∀ family, ¬ (a.kind.family? = some family ∧ b.kind.family? = some family)) :
    op.apply a b = .error (.typeMismatch op a.kind b.kind) := by
  have hordered : ∀ test, ordered op test a b = .error (.typeMismatch op a.kind b.kind) := by
    intro test
    cases a with
    | int | float =>
      cases b with
      | int | float => exact absurd ⟨rfl, rfl⟩ (h .numbers)
      | text | bool | list => rfl
    | text =>
      cases b with
      | text => exact absurd ⟨rfl, rfl⟩ (h .texts)
      | int | float | bool | list => rfl
    | bool | list => cases b <;> rfl
  cases op with
  | less | greater | lessEqual | greaterEqual => exact hordered _
  | equal | notEqual | add | sub | mul | div | mod => exact absurd hop (by decide)

end BinaryOp

/-- **Comparisons are coherent.** For two numbers, neither of them a double that is no number, and for
two texts, exactly one of less, equal and greater is true, the other comparisons are what these three
say, and less is greater with the operands exchanged. Less is transitive. For any other two values the
tests of order fail, and name the kinds. -/
theorem comparisons_coherent :
    (∀ (family : Family) (a b : Value), a.InFamily family → b.InFamily family →
      ∃ less equal greater : Bool, [less, equal, greater].count true = 1 ∧
        BinaryOp.less.Gives a b less ∧ BinaryOp.equal.Gives a b equal ∧
        BinaryOp.greater.Gives a b greater ∧ BinaryOp.lessEqual.Gives a b (less || equal) ∧
        BinaryOp.greaterEqual.Gives a b (greater || equal) ∧ BinaryOp.notEqual.Gives a b (!equal) ∧
        BinaryOp.greater.Gives b a less) ∧
    (∀ (family : Family) (a b c : Value), a.InFamily family → b.InFamily family →
      c.InFamily family → BinaryOp.less.Gives a b true → BinaryOp.less.Gives b c true →
        BinaryOp.less.Gives a c true) ∧
    (∀ (a b : Value), (∀ family, ¬ (a.kind.family? = some family ∧ b.kind.family? = some family)) →
      ∀ op ∈ BinaryOp.orderTests, ∀ (env : Environment) (left right : Expr) (span : Span),
        left.eval env = .ok a → right.eval env = .ok b →
          (Expr.binary op left right span).eval env =
            .error (.typeMismatch op a.kind b.kind)) := by
  refine ⟨?_, ?_, ?_⟩
  · intro family a b ha hb
    obtain ⟨o, ho⟩ := ha.exists_order hb
    have hgives : ∀ op ∈ BinaryOp.comparisons, ∀ t, op.accepts o = t → op.Gives a b t := by
      rintro op hop t rfl
      exact BinaryOp.gives_of_apply (BinaryOp.apply_comparison ha hb ho hop)
    have hconverse : BinaryOp.greater.Gives b a o.isLT := by
      have hswap := ha.order?_swap hb ho
      rw [← Ordering.isGT_swap]
      exact BinaryOp.gives_of_apply (BinaryOp.apply_comparison hb ha hswap (by decide))
    refine ⟨o.isLT, o.isEq, o.isGT, ?_, hgives _ (by decide) _ rfl, hgives _ (by decide) _ rfl,
      hgives _ (by decide) _ rfl, hgives _ (by decide) _ ?_, hgives _ (by decide) _ ?_,
      hgives _ (by decide) _ ?_, hconverse⟩
    all_goals cases o <;> rfl
  · intro family a b c ha hb hc h h'
    have htrans := ha.order?_lt_trans hb hc (BinaryOp.order?_of_less ha hb h)
      (BinaryOp.order?_of_less hb hc h')
    exact BinaryOp.gives_of_apply (BinaryOp.apply_comparison ha hc htrans (by decide))
  · intro a b h op hop env left right span hleft hright
    rw [BinaryOp.eval_of_apply hleft hright]
    exact BinaryOp.apply_orderTest_of_mismatch hop h

/-- The double next above `2 ^ 53`, which is two more. -/
def aboveTwoTo53 : Float :=
  Float.ofBits 0x4340000000000001

/-- Two integers that round to the same double, a larger double, and two truth values. -/
theorem comparisons_coherent_beyondTwoTo53 :
    BinaryOp.less.Gives (.int 9007199254740992) (.int 9007199254740993) true ∧
    BinaryOp.less.Gives (.int 9007199254740993) (.float aboveTwoTo53) true ∧
    BinaryOp.less.Gives (.int 9007199254740992) (.float aboveTwoTo53) true ∧
    BinaryOp.greater.Gives (.float aboveTwoTo53) (.int 9007199254740993) true ∧
    (Expr.binary .greater (.literal (.bool true) ⟨0, 4⟩) (.literal (.bool false) ⟨7, 12⟩)
      ⟨0, 12⟩).eval .empty = .error (.typeMismatch .greater .bool .bool) := by
  obtain ⟨hpair, htrans, hmismatch⟩ := comparisons_coherent
  have hint : ∀ n : Int64, (Value.int n).InFamily .numbers := fun n => ⟨rfl, List.forall_mem_nil _⟩
  have hnumber : aboveTwoTo53.isNaN = false := by decide +kernel
  have hfloat : (Value.float aboveTwoTo53).InFamily .numbers :=
    ⟨rfl, List.forall_mem_singleton.2 hnumber⟩
  have horder : (Value.int 9007199254740993).order? (.float aboveTwoTo53) = some .lt := by
    decide +kernel
  have hab : BinaryOp.less.Gives (.int 9007199254740992) (.int 9007199254740993) true :=
    BinaryOp.gives_of_apply rfl
  have hbc : BinaryOp.less.Gives (.int 9007199254740993) (.float aboveTwoTo53) true :=
    BinaryOp.gives_of_apply (BinaryOp.apply_comparison (hint _) hfloat horder (by decide))
  refine ⟨hab, hbc, htrans _ _ _ _ (hint _) (hint _) hfloat hab hbc, ?_, ?_⟩
  · obtain ⟨less, -, -, -, hless, -, -, -, -, -, hconverse⟩ := hpair _ _ _ (hint _) hfloat
    have heq := (BinaryOp.apply_of_gives hless).symm.trans (BinaryOp.apply_of_gives hbc)
    obtain rfl : less = true := by simpa using heq
    exact hconverse
  · have hapart : ∀ family, ¬ ((Value.bool true).kind.family? = some family ∧
        (Value.bool false).kind.family? = some family) := by
      rintro family ⟨⟨⟩, -⟩
    exact hmismatch _ _ hapart .greater (by decide) _ _ _ _ rfl rfl

end Reckoner
