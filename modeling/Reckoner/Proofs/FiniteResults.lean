import Reckoner.Evaluation
import Reckoner.Proofs.Binary64

/-!
# Results are finite

No operator and no function gives a double that is infinite or no number, provided that the values
it is applied to hold none. Most of them check their result. The others pass on what they are given,
whole or in part, or change no more than its sign.

So an expression whose literals are finite has a finite value in an environment of finite values
(`Expr.eval_allFinite`).
-/

set_option autoImplicit false

namespace Reckoner

/-! ## Values -/

namespace Value

mutual

/-- The doubles in a value, at any depth. -/
def floats : Value → List Float
  | .int _ => []
  | .float x => [x]
  | .text _ => []
  | .bool _ => []
  | .list items => floatsAll items

/-- The doubles in several values. -/
def floatsAll : List Value → List Float
  | [] => []
  | v :: more => v.floats ++ floatsAll more

end

/-- What holds of the doubles in a list holds of those in each item. -/
theorem forall_floats_list {items : List Value} {P : Float → Prop} :
    (∀ x ∈ (Value.list items).floats, P x) ↔ ∀ v ∈ items, ∀ x ∈ v.floats, P x := by
  have hall : ∀ vs : List Value,
      (∀ x ∈ floatsAll vs, P x) ↔ ∀ v ∈ vs, ∀ x ∈ v.floats, P x := by
    intro vs
    induction vs with
    | nil => simp [floatsAll]
    | cons v more ih =>
      simp only [floatsAll, List.mem_append, or_imp, forall_and, ih, List.mem_cons, forall_eq]
  exact hall items

/-- Every double in the value is finite. -/
def AllFinite (v : Value) : Prop :=
  ∀ x ∈ v.floats, Binary64.isFinite x = true

@[simp]
theorem allFinite_int (n : Int64) : (Value.int n).AllFinite := by
  simp [AllFinite, floats]

@[simp]
theorem allFinite_text (s : String) : (Value.text s).AllFinite := by
  simp [AllFinite, floats]

@[simp]
theorem allFinite_bool (b : Bool) : (Value.bool b).AllFinite := by
  simp [AllFinite, floats]

@[simp]
theorem allFinite_float {x : Float} : (Value.float x).AllFinite ↔ Binary64.isFinite x = true := by
  simp [AllFinite, floats]

@[simp]
theorem allFinite_list {items : List Value} :
    (Value.list items).AllFinite ↔ ∀ v ∈ items, v.AllFinite :=
  forall_floats_list

/-- A value that is a number is that number. -/
theorem eq_toValue_of_number? {v : Value} {n : Number} (h : v.number? = some n) :
    v = n.toValue := by
  cases v with
  | int m => cases h; rfl
  | float x => cases h; rfl
  | text | bool | list => simp [number?] at h

end Value

/-- If there is a result, every double in it is finite. -/
def FiniteResult (r : Except EvalError Value) : Prop :=
  ∀ v, r = .ok v → v.AllFinite

namespace FiniteResult

@[simp]
theorem error (e : EvalError) : FiniteResult (.error e) := by
  intro v h
  simp at h

@[simp]
theorem ok {v : Value} : FiniteResult (.ok v) ↔ v.AllFinite := by
  simp [FiniteResult]

end FiniteResult

/-! ## Operators -/

namespace BinaryOp

theorem intResult_finite (op : BinaryOp) (n : Option Int64) : FiniteResult (intResult op n) := by
  cases n with
  | none => exact .error _
  | some n => exact FiniteResult.ok.2 (Value.allFinite_int n)

theorem floatResult_finite (op : BinaryOp) (x : Float) : FiniteResult (floatResult op x) := by
  unfold floatResult
  split
  · next h => exact FiniteResult.ok.2 (Value.allFinite_float.2 h)
  · exact .error _

theorem arithmetic_finite (op : BinaryOp) (ints : Int64 → Int64 → Option Int64)
    (floats : Float → Float → Float) (m n : Number) :
    FiniteResult (arithmetic op ints floats m n) := by
  unfold arithmetic
  split
  · exact intResult_finite op _
  · exact floatResult_finite op _

theorem quotient_finite (m n : Number) : FiniteResult (quotient m n) := by
  unfold quotient
  split
  · split
    · exact intResult_finite .div _
    · exact floatResult_finite .div _
  · exact floatResult_finite .div _

section Numbers

variable {f : Number → Number → Except EvalError Value} (hf : ∀ m n, FiniteResult (f m n))

include hf

theorem divided_finite (m n : Number) : FiniteResult (divided f m n) := by
  unfold divided
  split
  · exact .error _
  · exact hf m n

theorem onNumbers_finite (op : BinaryOp) (a b : Value) : FiniteResult (onNumbers op f a b) := by
  unfold onNumbers
  split
  · exact hf _ _
  · exact .error _

end Numbers

theorem sum_finite {a b : Value} (ha : a.AllFinite) (hb : b.AllFinite) :
    FiniteResult (sum a b) := by
  unfold sum
  split
  · exact FiniteResult.ok.2 (Value.allFinite_text _)
  · -- Two lists joined hold what each of them held.
    rw [Value.allFinite_list] at ha hb
    rw [FiniteResult.ok, Value.allFinite_list]
    intro v hv
    rcases List.mem_append.1 hv with hv | hv
    · exact ha v hv
    · exact hb v hv
  · exact onNumbers_finite (arithmetic_finite _ _ _) _ _ _

theorem ordered_finite (op : BinaryOp) (test : Ordering → Bool) (a b : Value) :
    FiniteResult (ordered op test a b) := by
  unfold ordered
  split
  · exact FiniteResult.ok.2 (Value.allFinite_bool _)
  · exact onNumbers_finite (fun _ _ => FiniteResult.ok.2 (Value.allFinite_bool _)) _ _ _

theorem apply_finite (op : BinaryOp) {a b : Value} (ha : a.AllFinite) (hb : b.AllFinite) :
    FiniteResult (op.apply a b) := by
  cases op with
  | add => exact sum_finite ha hb
  | sub => exact onNumbers_finite (arithmetic_finite _ _ _) _ _ _
  | mul => exact onNumbers_finite (arithmetic_finite _ _ _) _ _ _
  | div => exact onNumbers_finite (divided_finite quotient_finite) _ _ _
  | mod => exact onNumbers_finite (divided_finite (arithmetic_finite _ _ _)) _ _ _
  | equal | notEqual => exact FiniteResult.ok.2 (Value.allFinite_bool _)
  | less | greater | lessEqual | greaterEqual => exact ordered_finite _ _ _ _

end BinaryOp

theorem UnaryOp.apply_finite (op : UnaryOp) {v : Value} (hv : v.AllFinite) :
    FiniteResult (op.apply v) := by
  unfold UnaryOp.apply
  split
  · split
    · exact FiniteResult.ok.2 (Value.allFinite_int _)
    · exact .error _
  · -- The negated double is not checked again; it has the magnitude of the operand.
    rw [Value.allFinite_float] at hv
    exact FiniteResult.ok.2 (Value.allFinite_float.2 (Binary64.isFinite_negate hv))
  · exact FiniteResult.ok.2 (Value.allFinite_bool _)
  · exact .error _

/-! ## Functions -/

namespace Builtin

theorem checked_finite (f : Builtin) (n : Option Int64) : FiniteResult (checked f n) := by
  cases n with
  | none => exact .error _
  | some n => exact FiniteResult.ok.2 (Value.allFinite_int n)

theorem finite_finite (f : Builtin) (x : Float) : FiniteResult (finite f x) := by
  unfold finite
  split
  · exact .error _
  · split
    · next h => exact FiniteResult.ok.2 (Value.allFinite_float.2 h)
    · exact .error _

theorem numberOf_finite {f : Builtin} {v : Value} {n : Number} (hv : v.AllFinite)
    (h : numberOf f v = .ok n) : n.toValue.AllFinite := by
  unfold numberOf at h
  split at h
  · next m hm =>
    obtain rfl : m = n := by simpa using h
    rw [← Value.eq_toValue_of_number? hm]
    exact hv
  · simp at h

theorem listOf_finite {f : Builtin} {v : Value} {items : List Value} (hv : v.AllFinite)
    (h : listOf f v = .ok items) : ∀ w ∈ items, w.AllFinite := by
  unfold listOf at h
  split at h
  · next items' =>
    obtain rfl : items' = items := by simpa using h
    exact Value.allFinite_list.1 hv
  · simp at h

theorem absoluteValue_finite {v : Value} (hv : v.AllFinite) : FiniteResult (absoluteValue v) := by
  unfold absoluteValue
  split
  · exact .error _
  · exact checked_finite .abs _
  · next x h =>
    have hx : Binary64.isFinite x = true := Value.allFinite_float.1 (numberOf_finite hv h)
    exact FiniteResult.ok.2 (Value.allFinite_float.2 (Binary64.isFinite_absolute hx))

/-- The best number is always one of those that were given. -/
theorem extremeFrom_finite (f : Builtin) (keep : Ordering) {best : Number}
    (hbest : best.toValue.AllFinite) {more : List Value} (hmore : ∀ v ∈ more, v.AllFinite) :
    FiniteResult (extremeFrom f keep best more) := by
  induction more generalizing best with
  | nil => exact FiniteResult.ok.2 hbest
  | cons v more ih =>
    have hlater : ∀ w ∈ more, w.AllFinite := fun w hw => hmore w (List.mem_cons_of_mem v hw)
    unfold extremeFrom
    split
    · exact .error _
    · next n h =>
      have hn : n.toValue.AllFinite := numberOf_finite (hmore v List.mem_cons_self) h
      split
      · exact ih hn hlater
      · exact ih hbest hlater

theorem extreme_finite (f : Builtin) (keep : Ordering) {first : Value} {more : List Value}
    (h : ∀ v ∈ first :: more, v.AllFinite) : FiniteResult (extreme f keep first more) := by
  unfold extreme
  split
  · exact .error _
  · next n hn =>
    have hfirst : n.toValue.AllFinite := numberOf_finite (h first List.mem_cons_self) hn
    exact extremeFrom_finite f keep hfirst fun v hv => h v (List.mem_cons_of_mem first hv)

theorem squareRoot_finite (v : Value) : FiniteResult (squareRoot v) := by
  unfold squareRoot
  split
  · exact .error _
  · split
    · exact .error _
    · exact finite_finite .sqrt _

theorem whole_finite (f : Builtin) (round : Rat → Int) (v : Value) :
    FiniteResult (whole f round v) := by
  unfold whole
  split
  · exact .error _
  · exact FiniteResult.ok.2 (Value.allFinite_int _)
  · exact checked_finite f _

theorem floatPower_finite (base exponent : Number) : FiniteResult (floatPower base exponent) := by
  unfold floatPower
  split
  · exact .error _
  · exact finite_finite .pow _

theorem power_finite (base exponent : Value) : FiniteResult (power base exponent) := by
  unfold power
  split
  · exact .error _
  · split
    · exact .error _
    · split
      · -- two integers
        split
        · exact checked_finite .pow _
        · exact floatPower_finite _ _
      · exact floatPower_finite _ _

theorem length_finite (v : Value) : FiniteResult (length v) := by
  unfold length
  split
  · exact checked_finite .len _
  · exact checked_finite .len _
  · exact .error _

theorem recased_finite (f : Builtin) (change : String → String) (v : Value) :
    FiniteResult (recased f change v) := by
  unfold recased
  cases textOf f v with
  | error e => exact .error e
  | ok s => exact FiniteResult.ok.2 (Value.allFinite_text _)

theorem firstItem_finite {v : Value} (hv : v.AllFinite) : FiniteResult (firstItem v) := by
  unfold firstItem
  split
  · exact .error _
  · exact .error _
  · next item items h => exact FiniteResult.ok.2 (listOf_finite hv h item List.mem_cons_self)

theorem laterItems_finite {v : Value} (hv : v.AllFinite) : FiniteResult (laterItems v) := by
  unfold laterItems
  split
  · exact .error _
  · exact .error _
  · next item items h =>
    rw [FiniteResult.ok, Value.allFinite_list]
    intro w hw
    exact listOf_finite hv h w (List.mem_cons_of_mem item hw)

theorem allItems_finite {vs items : List Value} (hvs : ∀ v ∈ vs, v.AllFinite)
    (h : allItems vs = .ok items) : ∀ w ∈ items, w.AllFinite := by
  induction vs generalizing items with
  | nil =>
    obtain rfl : [] = items := by simpa [allItems] using h
    simp
  | cons v more ih =>
    unfold allItems at h
    split at h
    · simp at h
    · next front hfront =>
      cases hback : allItems more with
      | error e => simp [hback, Except.map] at h
      | ok back =>
        obtain rfl : front ++ back = items := by simpa [hback, Except.map] using h
        intro w hw
        rcases List.mem_append.1 hw with hw | hw
        · exact listOf_finite (hvs v List.mem_cons_self) hfront w hw
        · exact ih (fun u hu => hvs u (List.mem_cons_of_mem v hu)) hback w hw

/-- A numeral stands for a finite number, its sign included. -/
theorem number?_finite {chars : List Char} {n : Number} (h : Numeral.number? chars = some n) :
    n.toValue.AllFinite := by
  unfold Numeral.number? at h
  split at h
  · obtain rfl := Option.some.inj h
    exact Value.allFinite_int _
  · obtain ⟨x, hx, rfl⟩ := Option.map_eq_some_iff.1 h
    apply Value.allFinite_float.2
    unfold Numeral.float? at hx
    dsimp only at hx
    split at hx
    · simp at hx
    · split at hx
      · next hsize =>
        -- The size is checked before the sign is put to it.
        obtain rfl := Option.some.inj hx
        split
        · exact Binary64.isFinite_negate hsize
        · exact hsize
      · simp at hx

theorem toNumber_finite {v : Value} (hv : v.AllFinite) : FiniteResult (toNumber v) := by
  unfold toNumber
  split
  · next n hn =>
    rw [FiniteResult.ok, ← Value.eq_toValue_of_number? hn]
    exact hv
  · split
    · exact .error _
    · split
      · next n hn => exact FiniteResult.ok.2 (number?_finite hn)
      · exact .error _

/-- A function on as many finite arguments as it takes gives a finite result. -/
theorem apply_finite (f : Builtin) (arguments : Arguments f.arity)
    (h : ∀ v ∈ arguments.values, v.AllFinite) : FiniteResult (f.apply arguments) := by
  cases f with
  | abs =>
    -- No more than a sign is changed.
    exact absoluteValue_finite (h _ arguments.only_mem)
  | min | max =>
    rw [← arguments.first_cons_others] at h
    exact extreme_finite _ _ h
  | sqrt => exact squareRoot_finite _
  | floor | ceil | round => exact whole_finite _ _ _
  | pow => exact power_finite _ _
  | len => exact length_finite _
  | upper | lower => exact recased_finite _ _ _
  | list => exact FiniteResult.ok.2 (Value.allFinite_list.2 h)
  | head => exact firstItem_finite (h _ arguments.only_mem)
  | tail => exact laterItems_finite (h _ arguments.only_mem)
  | join =>
    change FiniteResult ((allItems arguments.values).map .list)
    cases hitems : allItems arguments.values with
    | error e => exact .error e
    | ok items => exact FiniteResult.ok.2 (Value.allFinite_list.2 (allItems_finite h hitems))
  | str | typeOf => exact FiniteResult.ok.2 (Value.allFinite_text _)
  | num =>
    -- A numeral is read, or a number is passed on.
    exact toNumber_finite (h _ arguments.only_mem)

/-- A function on finite arguments gives a finite result. -/
theorem call_finite (f : Builtin) {arguments : List Value} (h : ∀ v ∈ arguments, v.AllFinite) :
    FiniteResult (f.call arguments) := by
  unfold call
  split
  · exact f.apply_finite _ h
  · exact .error _

end Builtin

/-! ## Expressions -/

/-- Every double in every bound value is finite. -/
def Environment.AllFinite (env : Environment) : Prop :=
  ∀ binding ∈ env.bindings, binding.2.AllFinite

theorem Environment.AllFinite.of_get? {env : Environment} (h : env.AllFinite) {name : String}
    {v : Value} (hname : env.get? name = some v) : v.AllFinite := by
  obtain ⟨before, behind, hbindings, -⟩ := List.lookup_eq_some_iff.1 hname
  apply h (name, v)
  rw [hbindings]
  simp

namespace Expr

mutual

/-- The values that are written in an expression. -/
def literals : Expr → List Value
  | .literal v _ => [v]
  | .list items _ => literalsAll items
  | .name _ _ => []
  | .call _ _ arguments _ => literalsAll arguments
  | .binary _ left right _ => left.literals ++ right.literals
  | .unary _ operand _ => operand.literals
  | .paren inner _ => inner.literals

/-- The values that are written in several expressions. -/
def literalsAll : List Expr → List Value
  | [] => []
  | e :: more => e.literals ++ literalsAll more

end

mutual

/-- An expression of finite literals and names has a finite value, if it has any. -/
theorem eval_allFinite {env : Environment} (henv : env.AllFinite) :
    ∀ e : Expr, (∀ v ∈ e.literals, v.AllFinite) → FiniteResult (e.eval env)
  | .literal v _, h => FiniteResult.ok.2 (h v (by simp [literals]))
  | .list items _, h => by
    rw [eval]
    split
    · exact .error _
    · next values hvalues =>
      rw [FiniteResult.ok, Value.allFinite_list]
      exact evalAll_allFinite henv items h hvalues
  | .name s _, _ => by
    rw [eval]
    split
    · next v hv => exact FiniteResult.ok.2 (henv.of_get? hv)
    · exact .error _
  | .call f _ arguments _, h => by
    rw [eval]
    split
    · exact .error _
    · split
      · exact .error _
      · next values hvalues =>
        exact Builtin.call_finite _ (evalAll_allFinite henv arguments h hvalues)
  | .binary op left right _, h => by
    have hleft := eval_allFinite henv left fun v hv => h v (List.mem_append_left _ hv)
    have hright := eval_allFinite henv right fun v hv => h v (List.mem_append_right _ hv)
    rw [eval]
    split
    · exact .error _
    · next a ha =>
      split
      · exact .error _
      · next b hb => exact op.apply_finite (hleft a ha) (hright b hb)
  | .unary op operand _, h => by
    have hoperand := eval_allFinite henv operand h
    rw [eval]
    split
    · exact .error _
    · next v hv => exact op.apply_finite (hoperand v hv)
  | .paren inner _, h => by
    rw [eval]
    exact eval_allFinite henv inner h

theorem evalAll_allFinite {env : Environment} (henv : env.AllFinite) :
    ∀ (es : List Expr) {values : List Value}, (∀ v ∈ literalsAll es, v.AllFinite) →
      evalAll env es = .ok values → ∀ v ∈ values, v.AllFinite
  | [], values, _, hvalues => by
    obtain rfl : [] = values := by simpa [evalAll] using hvalues
    simp
  | e :: more, values, h, hvalues => by
    have hfirst := eval_allFinite henv e fun v hv => h v (List.mem_append_left _ hv)
    rw [evalAll] at hvalues
    split at hvalues
    · simp at hvalues
    · next v hv =>
      split at hvalues
      · simp at hvalues
      · next later hlater =>
        obtain rfl : v :: later = values := by simpa using hvalues
        intro w hw
        rcases List.mem_cons.1 hw with rfl | hw
        · exact hfirst w hv
        · exact evalAll_allFinite henv more (fun u hu => h u (List.mem_append_right _ hu)) hlater w hw

end

end Expr

end Reckoner
