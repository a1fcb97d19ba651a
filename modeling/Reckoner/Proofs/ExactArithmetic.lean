import Reckoner.Evaluation
import Reckoner.Proofs.FiniteQuotient
import Reckoner.Proofs.FiniteResults
import Reckoner.Proofs.Integer
import Reckoner.Proofs.Tree

/-!
# Arithmetic on integers is exact

A tree of integer literals, names bound to integers, parentheses, minus signs and arithmetic operators
has an exact value over the rationals, unless something in it is divided by zero (`Expr.exactValue?`). The
language computes with integers of 64 bits, takes a quotient that is not whole as a double, and gives
up where an integer leaves the range.

Main statement (`eval_arithmetic_exact`): a result that is an integer is the exact value. Without
quotients every result is an integer, and the failures are exactly those that can be told from the
exact values: the first operator, operands before operators and left before right, that cannot give
its exact result as an integer. A single quotient is an integer, a double or a failure as the exact
quotient is whole, not whole, or out of reach.
-/

set_option autoImplicit false

namespace Reckoner

/-! ## Exact values -/

/-- The whole part of a rational, toward zero. -/
def wholePart (q : ℚ) : Int :=
  q.num.tdiv q.den

namespace BinaryOp

/-- The operators of arithmetic. -/
def arithmeticOps : List BinaryOp :=
  [.add, .sub, .mul, .div, .mod]

/-- The operators of arithmetic that give whole numbers for whole numbers. -/
def wholeOps : List BinaryOp :=
  [.add, .sub, .mul, .mod]

/-- The exact result of an operator of arithmetic. The remainder has the sign of the first operand,
and there is no quotient and no remainder by zero. -/
def exactResult? : BinaryOp → ℚ → ℚ → Option ℚ
  | .add, a, b => some (a + b)
  | .sub, a, b => some (a - b)
  | .mul, a, b => some (a * b)
  | .div, a, b => if b = 0 then none else some (a / b)
  | .mod, a, b => if b = 0 then none else some (a - b * wholePart (a / b))
  | _, _, _ => none

end BinaryOp

namespace Expr

/-- The exact value of a tree of arithmetic, if it has one. -/
def exactValue? (env : Environment) : Expr → Option ℚ
  | .literal (.int n) _ => some n.toInt
  | .name x _ =>
    match env.get? x with
    | some (.int n) => some n.toInt
    | _ => none
  | .paren e _ => e.exactValue? env
  | .unary .neg e _ => (e.exactValue? env).map fun a => -a
  | .binary op left right _ =>
    match left.exactValue? env, right.exactValue? env with
    | some a, some b => op.exactResult? a b
    | _, _ => none
  | _ => none

/-- The tree is made of integer literals, names that are bound to integers, parentheses, minus signs
and the given operators. -/
inductive Arithmetic (ops : List BinaryOp) (env : Environment) : Expr → Prop
  | literal (n : Int64) (span : Span) : Arithmetic ops env (.literal (.int n) span)
  | name {x : String} {n : Int64} (span : Span) :
      env.get? x = some (.int n) → Arithmetic ops env (.name x span)
  | paren {e : Expr} (span : Span) : Arithmetic ops env e → Arithmetic ops env (.paren e span)
  | neg {e : Expr} (span : Span) : Arithmetic ops env e → Arithmetic ops env (.unary .neg e span)
  | binary {op : BinaryOp} {left right : Expr} (span : Span) :
      op ∈ ops → Arithmetic ops env left → Arithmetic ops env right →
        Arithmetic ops env (.binary op left right span)

end Expr

/-- The whole part of a quotient of whole numbers is their quotient toward zero. -/
theorem wholePart_div (a : Int) {b : Int} (hb : b ≠ 0) : wholePart ((a : ℚ) / b) = a.tdiv b := by
  obtain ⟨c, ha', hb'⟩ := Rat.exists_eq_mul_div_num_and_eq_mul_div_den a hb
  unfold wholePart
  generalize ((a : ℚ) / b).num = p at *
  generalize (((a : ℚ) / b).den : Int) = q at *
  rw [ha', hb']
  rcases lt_trichotomy c 0 with hneg | rfl | hpos
  · -- Both signs can be changed.
    rw [← Int.mul_tdiv_mul_of_pos p q (neg_pos.2 hneg), Int.neg_mul, Int.neg_mul, Int.neg_tdiv_neg]
  · exact absurd (by simpa using hb') hb
  · rw [Int.mul_tdiv_mul_of_pos _ _ hpos]

/-- The exact remainder of two whole numbers. -/
theorem exactResult?_mod (a : Int) {b : Int} (hb : b ≠ 0) :
    BinaryOp.mod.exactResult? a b = some ((a.tmod b : Int) : ℚ) := by
  have hb' : (b : ℚ) ≠ 0 := Int.cast_ne_zero.2 hb
  simp only [BinaryOp.exactResult?, if_neg hb', wholePart_div a hb, Int.tmod_def]
  push_cast
  rfl

/-! ## Operators on integers -/

/-- The number is in the range of the integers. -/
def InRange (q : ℚ) : Prop :=
  (Integer.least : ℚ) ≤ q ∧ q ≤ (Integer.greatest : ℚ)

instance (q : ℚ) : Decidable (InRange q) :=
  inferInstanceAs (Decidable (_ ∧ _))

/-- Why an operator has no integer as its result for operands with the given exact values: there is
no remainder by zero, the result may be out of range, and the remainder of the least integer by minus
one is refused although it is zero. -/
def BinaryOp.fault? (op : BinaryOp) (a b : ℚ) : Option EvalError :=
  if op = .mod ∧ b = 0 then some .divideByZero
  else if op = .mod ∧ a = Integer.least ∧ b = -1 then some (.overflow (.binary .mod))
  else
    match op.exactResult? a b with
    | some q => if InRange q then none else some (.overflow (.binary op))
    | none => none

/-- Why a minus sign has no integer as its result. -/
def UnaryOp.fault? (op : UnaryOp) (a : ℚ) : Option EvalError :=
  if InRange (-a) then none else some (.overflow (.unary op))

theorem BinaryOp.fault?_cases {op : BinaryOp} {a b : ℚ} {err : EvalError}
    (h : op.fault? a b = some err) : err = .divideByZero ∨ ∃ operation, err = .overflow operation := by
  unfold fault? at h
  split at h
  · exact .inl (by simpa using h.symm)
  split at h
  · exact .inr ⟨_, by simpa using h.symm⟩
  split at h
  · split at h
    · simp at h
    · exact .inr ⟨_, by simpa using h.symm⟩
  · simp at h

/-- The result is the fault, or the exact value as an integer if there is no fault. -/
def Settled (fault : Option EvalError) (exact : Option ℚ) (result : Except EvalError Value) : Prop :=
  match fault with
  | some err => result = .error err
  | none => ∃ n : Int64, result = .ok (.int n) ∧ exact = some (n.toInt : ℚ)

theorem Settled.cases {fault : Option EvalError} {exact : Option ℚ}
    {result : Except EvalError Value} (h : Settled fault exact result) :
    (∃ err, fault = some err ∧ result = .error err) ∨
      ∃ n : Int64, fault = none ∧ result = .ok (.int n) ∧ exact = some (n.toInt : ℚ) := by
  cases fault with
  | some err => exact .inl ⟨err, rfl, h⟩
  | none =>
    obtain ⟨n, hresult, hexact⟩ := h
    exact .inr ⟨n, rfl, hresult, hexact⟩

theorem Settled.exact_of_ok {fault : Option EvalError} {exact : Option ℚ} {n : Int64}
    (h : Settled fault exact (.ok (.int n))) : exact = some (n.toInt : ℚ) := by
  rcases h.cases with ⟨err, -, hresult⟩ | ⟨m, -, hresult, hexact⟩
  · simp at hresult
  · obtain rfl : n = m := by simpa using hresult
    exact hexact

theorem inRange_intCast {n : Int} :
    InRange (n : ℚ) ↔ Integer.least ≤ n ∧ n ≤ Integer.greatest := by
  unfold InRange
  norm_cast

/-- A checked integer is the exact one, or out of range. -/
theorem settled_fit (n : Int) {err : EvalError} {result : Except EvalError Value}
    (hsome : ∀ m, Integer.fit? n = some m → result = .ok (.int m))
    (hnone : Integer.fit? n = none → result = .error err) :
    Settled (if InRange (n : ℚ) then none else some err) (some (n : ℚ)) result := by
  split
  · next hrange =>
    rw [inRange_intCast] at hrange
    obtain ⟨m, hm, rfl⟩ := Integer.exists_fit hrange.1 hrange.2
    exact ⟨m, hsome m hm, rfl⟩
  · next hrange =>
    rw [inRange_intCast, ← Integer.fit?_eq_none_iff] at hrange
    exact hnone hrange

theorem UnaryOp.settled_neg (n : Int64) :
    Settled (UnaryOp.neg.fault? n.toInt) (some (-n.toInt : ℚ)) (UnaryOp.neg.apply (.int n)) := by
  rw [fault?, ← Int.cast_neg]
  apply settled_fit
  · intro m hm
    rw [apply, Integer.neg?, hm]
  · intro hm
    rw [apply, Integer.neg?, hm]

namespace BinaryOp

theorem settled_intResult (op : BinaryOp) (n : Int) :
    Settled (if InRange (n : ℚ) then none else some (.overflow (.binary op))) (some (n : ℚ))
      (intResult op (Integer.fit? n)) := by
  apply settled_fit
  · intro m hm
    rw [hm, intResult]
  · intro hm
    rw [hm, intResult]

/-- An operator that divides two integers fails for the divisor zero, and else does as it does. -/
theorem onNumbers_divided (op : BinaryOp) (f : Number → Number → Except EvalError Value)
    (a b : Int64) :
    onNumbers op (divided f) (.int a) (.int b) =
      if b.toInt = 0 then .error .divideByZero else f (.int a) (.int b) := by
  simp only [onNumbers, Value.number?, divided, Number.isZero, beq_iff_eq]

theorem settled_mod (a b : Int64) :
    Settled (mod.fault? a.toInt b.toInt) (mod.exactResult? a.toInt b.toInt)
      (mod.apply (.int a) (.int b)) := by
  rw [apply, onNumbers_divided]
  by_cases hb : b.toInt = 0
  · rw [if_pos hb, fault?, if_pos ⟨rfl, by simp [hb]⟩]
    rfl
  have hb' : (b.toInt : ℚ) ≠ 0 := Int.cast_ne_zero.2 hb
  rw [if_neg hb, fault?, if_neg (fun h => hb' h.2), exactResult?_mod _ hb, arithmetic,
    Integer.remainder?]
  by_cases hleast : a.toInt = Integer.least ∧ b.toInt = -1
  · -- There is no quotient to take the remainder of.
    rw [(Integer.quotient?_eq_none_iff hb).2 hleast, hleast.1, hleast.2, if_pos (by simp)]
    rfl
  · have hleast' : ¬ (mod = .mod ∧ (a.toInt : ℚ) = Integer.least ∧ (b.toInt : ℚ) = -1) := by
      rintro ⟨-, ha, hb⟩
      exact hleast ⟨by exact_mod_cast ha, by exact_mod_cast hb⟩
    obtain ⟨q, hq, -⟩ := Integer.exists_quotient hb hleast
    rw [if_neg hleast', hq, Option.bind_some]
    exact settled_intResult .mod _

/-- An operator that gives whole numbers for whole numbers has its exact result as an integer, or the
fault that the operands tell. -/
theorem settled_apply {op : BinaryOp} (hop : op ∈ wholeOps) (a b : Int64) :
    Settled (op.fault? a.toInt b.toInt) (op.exactResult? a.toInt b.toInt)
      (op.apply (.int a) (.int b)) := by
  simp only [wholeOps, List.mem_cons, List.not_mem_nil, or_false] at hop
  rcases hop with rfl | rfl | rfl | rfl
  · have h := settled_intResult .add (a.toInt + b.toInt)
    rw [Int.cast_add] at h
    exact h
  · have h := settled_intResult .sub (a.toInt - b.toInt)
    rw [Int.cast_sub] at h
    exact h
  · have h := settled_intResult .mul (a.toInt * b.toInt)
    rw [Int.cast_mul] at h
    exact h
  · exact settled_mod a b

end BinaryOp

/-! ## A single quotient -/

/-- What the quotient of two integers comes to: a failure if the divisor is zero or the quotient is
out of range, else the quotient as an integer if it is whole, and as a double if it is not. -/
structure QuotientOutcome (a b : Int64) (result : Except EvalError Value) : Prop where
  divideByZero : result = .error .divideByZero ↔ b.toInt = 0
  overflow :
    result = .error (.overflow (.binary .div)) ↔ a.toInt = Integer.least ∧ b.toInt = -1
  whole :
    (∃ q : Int64, result = .ok (.int q) ∧ q.toInt * b.toInt = a.toInt) ↔
      b.toInt ≠ 0 ∧ ¬ (a.toInt = Integer.least ∧ b.toInt = -1) ∧ b.toInt ∣ a.toInt
  broken : (∃ x, result = .ok (.float x)) ↔ b.toInt ≠ 0 ∧ ¬ b.toInt ∣ a.toInt

/-- If a quotient comes to an integer, then to the exact one. -/
theorem QuotientOutcome.exact_of_ok {a b n : Int64} (h : QuotientOutcome a b (.ok (.int n))) :
    BinaryOp.div.exactResult? a.toInt b.toInt = some (n.toInt : ℚ) := by
  have hb : b.toInt ≠ 0 := by
    intro hb
    simpa using h.divideByZero.2 hb
  have hleast : ¬ (a.toInt = Integer.least ∧ b.toInt = -1) := by
    intro hleast
    simpa using h.overflow.2 hleast
  have hdvd : b.toInt ∣ a.toInt := by
    by_contra hdvd
    obtain ⟨x, hx⟩ := h.broken.2 ⟨hb, hdvd⟩
    simp at hx
  obtain ⟨q, hq, hexact⟩ := h.whole.2 ⟨hb, hleast, hdvd⟩
  obtain rfl : n = q := by simpa using hq
  have hb' : (b.toInt : ℚ) ≠ 0 := Int.cast_ne_zero.2 hb
  rw [BinaryOp.exactResult?, if_neg hb', Option.some_inj, div_eq_iff hb', ← hexact, Int.cast_mul]

namespace BinaryOp

/-- The quotient of two integers as doubles is in range. -/
theorem quotient_of_not_dvd {a b : Int64} (hb : b.toInt ≠ 0) (hdvd : ¬ b.toInt ∣ a.toInt) :
    quotient (.int a) (.int b) =
      .ok (.float (Binary64.ofInt a.toInt / Binary64.ofInt b.toInt)) := by
  have habs : ∀ n : Int64, n.toInt.natAbs ≤ 2 ^ 63 := by
    intro n
    obtain ⟨hlow, hhigh⟩ := Integer.toInt_mem_range n
    unfold Integer.least Integer.greatest at *
    omega
  have hfinite := Binary64.isFinite_ofInt_div (habs a) (habs b) hb
  rw [Int.dvd_iff_tmod_eq_zero] at hdvd
  rw [quotient, if_neg hdvd, floatResult, if_pos hfinite]

theorem quotientOutcome_apply (a b : Int64) :
    QuotientOutcome a b (div.apply (.int a) (.int b)) := by
  rw [apply, onNumbers_divided]
  by_cases hb : b.toInt = 0
  · rw [if_pos hb]
    constructor <;> simp [hb]
  rw [if_neg hb]
  by_cases hdvd : b.toInt ∣ a.toInt
  · -- The quotient is whole, and in range but for one case.
    have hmod := Int.dvd_iff_tmod_eq_zero.1 hdvd
    rw [quotient, if_pos hmod]
    by_cases hleast : a.toInt = Integer.least ∧ b.toInt = -1
    · rw [(Integer.quotient?_eq_none_iff hb).2 hleast]
      constructor <;> simp [intResult, hleast]
    · obtain ⟨q, hq, hvalue⟩ := Integer.exists_quotient hb hleast
      have hexact : q.toInt * b.toInt = a.toInt := by
        rw [hvalue, Int.tdiv_mul_cancel_of_tmod_eq_zero hmod]
      rw [hq]
      constructor <;> simp [intResult, hb, hleast, hdvd, hexact]
  · have hleast : ¬ (a.toInt = Integer.least ∧ b.toInt = -1) := by
      rintro ⟨-, hone⟩
      exact hdvd (hone ▸ Int.neg_dvd.2 (Int.one_dvd _))
    rw [quotient_of_not_dvd hb hdvd]
    constructor <;> simp [hb, hleast, hdvd]

end BinaryOp

/-! ## Integers come from integers -/

namespace BinaryOp

/-- A result that is taken as a double is no integer. -/
theorem floatResult_ne_int (op : BinaryOp) (x : Float) (n : Int64) :
    floatResult op x ≠ .ok (.int n) := by
  unfold floatResult
  split <;> simp

/-- An integer is the result of a function of two values only for two integers, if so it is for two
numbers. -/
theorem ints_of_onNumbers {op : BinaryOp} {f : Number → Number → Except EvalError Value} {n : Int64}
    (hf : ∀ k m, f k m = .ok (.int n) → ∃ a b, k = .int a ∧ m = .int b) {v w : Value}
    (h : onNumbers op f v w = .ok (.int n)) : ∃ a b, v = .int a ∧ w = .int b := by
  unfold onNumbers at h
  split at h
  · next k m hk hm =>
    obtain ⟨a, b, rfl, rfl⟩ := hf k m h
    exact ⟨a, b, Value.eq_toValue_of_number? hk, Value.eq_toValue_of_number? hm⟩
  · simp at h

theorem ints_of_arithmetic {op : BinaryOp} {ints : Int64 → Int64 → Option Int64}
    {floats : Float → Float → Float} {n : Int64} (k m : Number)
    (h : arithmetic op ints floats k m = .ok (.int n)) : ∃ a b, k = .int a ∧ m = .int b := by
  unfold arithmetic at h
  split at h
  · next a b => exact ⟨a, b, rfl, rfl⟩
  · exact absurd h (floatResult_ne_int _ _ _)

theorem ints_of_divided {f : Number → Number → Except EvalError Value} {n : Int64}
    (hf : ∀ k m, f k m = .ok (.int n) → ∃ a b, k = .int a ∧ m = .int b) (k m : Number)
    (h : divided f k m = .ok (.int n)) : ∃ a b, k = .int a ∧ m = .int b := by
  unfold divided at h
  split at h
  · simp at h
  · exact hf k m h

theorem ints_of_quotient {n : Int64} (k m : Number) (h : quotient k m = .ok (.int n)) :
    ∃ a b, k = .int a ∧ m = .int b := by
  unfold quotient at h
  split at h
  · next a b => exact ⟨a, b, rfl, rfl⟩
  · exact absurd h (floatResult_ne_int _ _ _)

theorem ints_of_apply {op : BinaryOp} (hop : op ∈ arithmeticOps) {v w : Value} {n : Int64}
    (h : op.apply v w = .ok (.int n)) : ∃ a b, v = .int a ∧ w = .int b := by
  simp only [arithmeticOps, List.mem_cons, List.not_mem_nil, or_false] at hop
  rcases hop with rfl | rfl | rfl | rfl | rfl
  · rw [apply] at h
    unfold sum at h
    split at h
    · simp at h
    · simp at h
    · exact ints_of_onNumbers ints_of_arithmetic h
  · exact ints_of_onNumbers ints_of_arithmetic h
  · exact ints_of_onNumbers ints_of_arithmetic h
  · exact ints_of_onNumbers (ints_of_divided ints_of_quotient) h
  · exact ints_of_onNumbers (ints_of_divided ints_of_arithmetic) h

/-- An operator of arithmetic gives an integer for two integers only, and then it is the exact
result. -/
theorem exactResult?_of_apply {op : BinaryOp} (hop : op ∈ arithmeticOps) {v w : Value} {n : Int64}
    (h : op.apply v w = .ok (.int n)) :
    ∃ a b : Int64, v = .int a ∧ w = .int b ∧ op.exactResult? a.toInt b.toInt = some (n.toInt : ℚ) := by
  obtain ⟨a, b, rfl, rfl⟩ := ints_of_apply hop h
  refine ⟨a, b, rfl, rfl, ?_⟩
  by_cases hdiv : op = .div
  · obtain rfl := hdiv
    have houtcome := quotientOutcome_apply a b
    rw [h] at houtcome
    exact houtcome.exact_of_ok
  · have hwhole : op ∈ wholeOps := by
      revert hop hdiv
      cases op <;> decide
    have hsettled := settled_apply hwhole a b
    rw [h] at hsettled
    exact hsettled.exact_of_ok

end BinaryOp

/-- A minus sign gives an integer for an integer only, and then it is its negative. -/
theorem UnaryOp.int_of_neg {v : Value} {n : Int64} (h : UnaryOp.neg.apply v = .ok (.int n)) :
    ∃ m : Int64, v = .int m ∧ some (-m.toInt : ℚ) = some (n.toInt : ℚ) := by
  cases v with
  | int m =>
    have hsettled := UnaryOp.settled_neg m
    rw [h] at hsettled
    exact ⟨m, rfl, hsettled.exact_of_ok⟩
  | float | text | bool | list => simp [apply] at h

/-! ## Trees of arithmetic -/

namespace Expr

theorem exists_of_eval_unary {env : Environment} {op : UnaryOp} {e : Expr} {span : Span} {v : Value}
    (h : (Expr.unary op e span).eval env = .ok v) :
    ∃ w, e.eval env = .ok w ∧ op.apply w = .ok v := by
  rw [eval] at h
  split at h
  · simp at h
  · next w hw => exact ⟨w, hw, h⟩

theorem exists_of_eval_binary {env : Environment} {op : BinaryOp} {left right : Expr} {span : Span}
    {v : Value} (h : (Expr.binary op left right span).eval env = .ok v) :
    ∃ a b, left.eval env = .ok a ∧ right.eval env = .ok b ∧ op.apply a b = .ok v := by
  rw [eval] at h
  split at h
  · simp at h
  · next a ha =>
    split at h
    · simp at h
    · next b hb => exact ⟨a, b, ha, hb, h⟩

/-- If a tree of arithmetic has an integer as its result, then so has every tree in it, and each result
is the exact value. -/
theorem Arithmetic.exact_of_eval {env : Environment} {e : Expr}
    (h : Arithmetic BinaryOp.arithmeticOps env e) {n : Int64} (heval : e.eval env = .ok (.int n)) :
    (∀ sub ∈ e.nodes, ∃ m : Int64, sub.eval env = .ok (.int m)) ∧
      e.exactValue? env = some (n.toInt : ℚ) := by
  -- An integer at the root is made from integers at the operands, so the hypothesis is passed down.
  induction h generalizing n with
  | literal m span =>
    obtain rfl : m = n := by simpa [eval] using heval
    exact ⟨List.forall_mem_singleton.2 ⟨m, rfl⟩, rfl⟩
  | @name x m span hx =>
    obtain rfl : m = n := by simpa [eval, hx] using heval
    refine ⟨List.forall_mem_singleton.2 ⟨m, heval⟩, ?_⟩
    rw [exactValue?, hx]
  | paren span h ih =>
    obtain ⟨hinner, hexact⟩ := ih heval
    exact ⟨List.forall_mem_cons.2 ⟨⟨n, heval⟩, hinner⟩, hexact⟩
  | @neg e span h ih =>
    obtain ⟨v, hv, happly⟩ := exists_of_eval_unary heval
    obtain ⟨m, rfl, hm⟩ := UnaryOp.int_of_neg happly
    obtain ⟨hinner, hexact⟩ := ih hv
    refine ⟨List.forall_mem_cons.2 ⟨⟨n, heval⟩, hinner⟩, ?_⟩
    rw [exactValue?, hexact]
    exact hm
  | @binary op left right span hop hleft hright ihl ihr =>
    obtain ⟨v, w, hv, hw, happly⟩ := exists_of_eval_binary heval
    obtain ⟨a, b, rfl, rfl, hab⟩ := BinaryOp.exactResult?_of_apply hop happly
    obtain ⟨hinner, hexact⟩ := ihl hv
    obtain ⟨hinner', hexact'⟩ := ihr hw
    refine ⟨List.forall_mem_cons.2 ⟨⟨n, heval⟩, List.forall_mem_append.2 ⟨hinner, hinner'⟩⟩, ?_⟩
    rw [exactValue?, hexact, hexact']
    exact hab

/-- The fault of the operator of a tree, told from the exact values of its operands. -/
def fault? (env : Environment) : Expr → Option EvalError
  | .unary op e _ => (e.exactValue? env).bind op.fault?
  | .binary op left right _ =>
    match left.exactValue? env, right.exactValue? env with
    | some a, some b => op.fault? a b
    | _, _ => none
  | _ => none

mutual

/-- The trees in a tree, each behind those in it, and from left to right. -/
def postorder : Expr → List Expr
  | .literal v s => [.literal v s]
  | .list items s => postorderAll items ++ [.list items s]
  | .name x s => [.name x s]
  | .call f fs arguments s => postorderAll arguments ++ [.call f fs arguments s]
  | .binary op left right s => left.postorder ++ right.postorder ++ [.binary op left right s]
  | .unary op e s => e.postorder ++ [.unary op e s]
  | .paren e s => e.postorder ++ [.paren e s]

/-- The trees in several trees, in the same order. -/
def postorderAll : List Expr → List Expr
  | [] => []
  | e :: more => e.postorder ++ postorderAll more

end

/-- The fault of the first operator of a tree that has one. -/
def firstFault? (env : Environment) (e : Expr) : Option EvalError :=
  e.postorder.findSome? (fault? env)

theorem firstFault?_paren (env : Environment) (e : Expr) (span : Span) :
    (Expr.paren e span).firstFault? env = e.firstFault? env := by
  rw [firstFault?, postorder, List.findSome?_append]
  exact Option.or_none

theorem firstFault?_unary (env : Environment) (op : UnaryOp) (e : Expr) (span : Span) :
    (Expr.unary op e span).firstFault? env =
      (e.firstFault? env).or ((Expr.unary op e span).fault? env) := by
  rw [firstFault?, postorder, List.findSome?_append, List.findSome?_singleton]
  rfl

theorem firstFault?_binary (env : Environment) (op : BinaryOp) (left right : Expr) (span : Span) :
    (Expr.binary op left right span).firstFault? env =
      ((left.firstFault? env).or (right.firstFault? env)).or
        ((Expr.binary op left right span).fault? env) := by
  rw [firstFault?, postorder, List.findSome?_append, List.findSome?_append,
    List.findSome?_singleton]
  rfl

/-- A tree without quotients has its exact value as an integer, or fails as the first of its operators
with a fault does. -/
theorem Arithmetic.settled {env : Environment} {e : Expr}
    (h : Arithmetic BinaryOp.wholeOps env e) :
    Settled (e.firstFault? env) (e.exactValue? env) (e.eval env) := by
  induction h with
  | literal n span => exact ⟨n, rfl, rfl⟩
  | @name x n span hx =>
    refine ⟨n, ?_, ?_⟩
    · rw [eval, hx]
    · rw [exactValue?, hx]
  | paren span h ih =>
    rw [firstFault?_paren]
    exact ih
  | @neg e span h ih =>
    rw [firstFault?_unary, exactValue?, eval]
    rcases ih.cases with ⟨err, hfault, heval⟩ | ⟨n, hfault, heval, hexact⟩
    · rw [hfault, heval]
      rfl
    · rw [hfault, fault?, heval, hexact]
      exact UnaryOp.settled_neg n
  | @binary op left right span hop hleft hright ihl ihr =>
    -- The operands are taken from left to right, and the operator after both.
    rw [firstFault?_binary, exactValue?, eval]
    rcases ihl.cases with ⟨err, hfault, heval⟩ | ⟨a, hfault, heval, hexact⟩
    · rw [hfault, heval]
      rfl
    rcases ihr.cases with ⟨err, hfault', heval'⟩ | ⟨b, hfault', heval', hexact'⟩
    · rw [hfault, hfault', heval, heval']
      rfl
    · rw [hfault, hfault', fault?, heval, heval', hexact, hexact']
      exact BinaryOp.settled_apply hop a b

theorem fault?_cases {env : Environment} {e : Expr} {err : EvalError} (h : e.fault? env = some err) :
    err = .divideByZero ∨ ∃ operation, err = .overflow operation := by
  unfold fault? at h
  split at h
  · next op e span =>
    obtain ⟨a, -, ha⟩ := Option.bind_eq_some_iff.1 h
    unfold UnaryOp.fault? at ha
    split at ha
    · simp at ha
    · exact .inr ⟨_, by simpa using ha.symm⟩
  · split at h
    · exact BinaryOp.fault?_cases h
    · simp at h
  · simp at h

/-- A tree without quotients fails as its first fault does, and only so. -/
theorem Arithmetic.eval_eq_error_iff {env : Environment} {e : Expr}
    (h : Arithmetic BinaryOp.wholeOps env e) (err : EvalError) :
    e.eval env = .error err ↔ e.firstFault? env = some err := by
  rcases h.settled.cases with ⟨fault, hfault, heval⟩ | ⟨n, hfault, heval, -⟩
  · simp [hfault, heval]
  · simp [hfault, heval]

theorem Arithmetic.eval_cases {env : Environment} {e : Expr}
    (h : Arithmetic BinaryOp.wholeOps env e) :
    (∃ n : Int64, e.eval env = .ok (.int n)) ∨ e.eval env = .error .divideByZero ∨
      ∃ operation, e.eval env = .error (.overflow operation) := by
  rcases h.settled.cases with ⟨err, hfault, heval⟩ | ⟨n, -, heval, -⟩
  · obtain ⟨node, -, hnode⟩ := List.exists_of_findSome?_eq_some hfault
    rcases fault?_cases hnode with rfl | ⟨operation, rfl⟩
    · exact .inr (.inl heval)
    · exact .inr (.inr ⟨operation, heval⟩)
  · exact .inl ⟨n, heval⟩

end Expr

/-- Arithmetic on integers is exact. An integer is the result of a tree of arithmetic only if all
trees in it have integers as results, and then it is the exact value. Without quotients there are no
other results, and a failure is that of the first operator, operands before operators and left before
right, whose exact result is missing, out of range or refused. For a single quotient of integers,
what it comes to is told from the two. -/
theorem eval_arithmetic_exact (env : Environment) :
    (∀ (e : Expr) (n : Int64), e.Arithmetic BinaryOp.arithmeticOps env →
      e.eval env = .ok (.int n) →
        (∀ sub ∈ e.nodes, ∃ m : Int64, sub.eval env = .ok (.int m)) ∧
        e.exactValue? env = some (n.toInt : ℚ)) ∧
    (∀ e : Expr, e.Arithmetic BinaryOp.wholeOps env →
      ((∃ n : Int64, e.eval env = .ok (.int n)) ∨ e.eval env = .error .divideByZero ∨
        ∃ operation, e.eval env = .error (.overflow operation)) ∧
      ∀ err, e.eval env = .error err ↔ e.firstFault? env = some err) ∧
    (∀ (left right : Expr) (span : Span) (a b : Int64), left.eval env = .ok (.int a) →
      right.eval env = .ok (.int b) →
        QuotientOutcome a b ((Expr.binary .div left right span).eval env)) := by
  refine ⟨?_, ?_, ?_⟩
  · intro e n h heval
    exact h.exact_of_eval heval
  · intro e h
    exact ⟨h.eval_cases, h.eval_eq_error_iff⟩
  · intro left right span a b hleft hright
    rw [Expr.eval, hleft, hright]
    exact BinaryOp.quotientOutcome_apply a b

/-- The least integer under the name `low`. -/
def lowest : Environment :=
  Environment.empty.assign "low" (.int Int64.minValue)

/-- The expression `(low + 5) / 3 % 7`, where the quotient is whole. -/
def thirdOfLow : Expr :=
  .binary .mod
    (.binary .div
      (.paren (.binary .add (.name "low" ⟨1, 4⟩) (.literal (.int 5) ⟨7, 8⟩) ⟨1, 8⟩) ⟨0, 9⟩)
      (.literal (.int 3) ⟨12, 13⟩) ⟨0, 13⟩)
    (.literal (.int 7) ⟨16, 17⟩) ⟨0, 17⟩

/-- The expression `-low - 1 % 0`, with two faults. -/
def twoFaults : Expr :=
  .binary .sub (.unary .neg (.name "low" ⟨1, 4⟩) ⟨0, 4⟩)
    (.binary .mod (.literal (.int 1) ⟨7, 8⟩) (.literal (.int 0) ⟨11, 12⟩) ⟨7, 12⟩) ⟨0, 12⟩

/-- An exact remainder of a quotient, the first of two faults, and a quotient that is not whole. -/
theorem eval_arithmetic_exact_lowest :
    thirdOfLow.Arithmetic BinaryOp.arithmeticOps lowest ∧
    thirdOfLow.eval lowest = .ok (.int (-1)) ∧
    thirdOfLow.exactValue? lowest = some (-1) ∧
    twoFaults.Arithmetic BinaryOp.wholeOps lowest ∧
    twoFaults.eval lowest = .error (.overflow (.unary .neg)) ∧
    ∃ x, (Expr.binary .div (.name "low" ⟨0, 3⟩) (.literal (.int 3) ⟨6, 7⟩) ⟨0, 7⟩).eval lowest =
      .ok (.float x) := by
  obtain ⟨hexact, hwhole, hquotient⟩ := eval_arithmetic_exact lowest
  have hlow : lowest.get? "low" = some (.int Int64.minValue) := by rfl
  have hthird : thirdOfLow.Arithmetic BinaryOp.arithmeticOps lowest :=
    .binary _ (by decide)
      (.binary _ (by decide)
        (.paren _ (.binary _ (by decide) (.name _ hlow) (.literal 5 _))) (.literal 3 _))
      (.literal 7 _)
  have hfaults : twoFaults.Arithmetic BinaryOp.wholeOps lowest :=
    .binary _ (by decide) (.neg _ (.name _ hlow))
      (.binary _ (by decide) (.literal 1 _) (.literal 0 _))
  have hvalue : thirdOfLow.eval lowest = .ok (.int (-1)) := by rfl
  refine ⟨hthird, hvalue, ?_, hfaults, ?_, ?_⟩
  · rw [(hexact _ _ hthird hvalue).2]
    rfl
  · exact ((hwhole _ hfaults).2 _).2 rfl
  · exact (hquotient _ _ _ Int64.minValue 3 rfl rfl).broken.2 (by decide)

end Reckoner
