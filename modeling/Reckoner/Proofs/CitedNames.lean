import Reckoner.Proofs.ExactSpans
import Reckoner.Proofs.Reachable

/-!
# Names that faults cite

Two faults of evaluation cite a name: that of something undefined, and that of an unknown function.
No operator and no function has such a fault, whatever it is applied to (`BinaryOp.apply_citesOnly`,
`Builtin.call_citesOnly`). They arise from the tree alone, where a name is looked up or a function is
called, so the name that is cited stands in the line as a token (`Session.isName_of_cited`).

Values have no part in this. The environment may hold any texts, under any names.
-/

set_option autoImplicit false

namespace Reckoner

open Grammar Token

/-- The name that a fault cites, if it cites one. -/
def EvalError.cited? : EvalError → Option String
  | .undefinedName name => some name
  | .unknownFunction name => some name
  | _ => none

/-- If the result is a fault that cites a name, the name has the property. -/
def CitesOnly {α : Type} (P : String → Prop) (r : Except EvalError α) : Prop :=
  ∀ e, r = .error e → ∀ name ∈ e.cited?, P name

section Citations

variable {P : String → Prop}

namespace CitesOnly

variable {α β : Type}

theorem ok (a : α) : CitesOnly P (.ok a) := by
  intro e h
  cases h

theorem error {e : EvalError} (h : ∀ name ∈ e.cited?, P name) :
    CitesOnly P (.error e : Except EvalError α) := by
  intro e' he
  cases he
  exact h

theorem uncited {e : EvalError} (h : e.cited? = none) :
    CitesOnly P (.error e : Except EvalError α) := by
  apply error
  intro name hname
  rw [h] at hname
  cases hname

/-- A fault that is passed on cites what it cited before. -/
theorem of_error {r : Except EvalError α} (h : CitesOnly P r) {e : EvalError} (hr : r = .error e) :
    CitesOnly P (.error e : Except EvalError β) :=
  error (h e hr)

theorem map {r : Except EvalError α} (h : CitesOnly P r) (f : α → β) : CitesOnly P (r.map f) := by
  cases r with
  | error e => exact h.of_error rfl
  | ok a => exact ok (f a)

end CitesOnly

/-! ## Operators -/

namespace BinaryOp

theorem intResult_citesOnly (op : BinaryOp) (n : Option Int64) :
    CitesOnly P (intResult op n) := by
  cases n with
  | none => exact .uncited rfl
  | some n => exact .ok _

theorem floatResult_citesOnly (op : BinaryOp) (x : Float) : CitesOnly P (floatResult op x) := by
  unfold floatResult
  split
  · exact .ok _
  · exact .uncited rfl

theorem arithmetic_citesOnly (op : BinaryOp) (ints : Int64 → Int64 → Option Int64)
    (floats : Float → Float → Float) (m n : Number) :
    CitesOnly P (arithmetic op ints floats m n) := by
  unfold arithmetic
  split
  · exact intResult_citesOnly op _
  · exact floatResult_citesOnly op _

theorem quotient_citesOnly (m n : Number) : CitesOnly P (quotient m n) := by
  unfold quotient
  split
  · split
    · exact intResult_citesOnly .div _
    · exact floatResult_citesOnly .div _
  · exact floatResult_citesOnly .div _

section Numbers

variable {f : Number → Number → Except EvalError Value} (hf : ∀ m n, CitesOnly P (f m n))

include hf

theorem divided_citesOnly (m n : Number) : CitesOnly P (divided f m n) := by
  unfold divided
  split
  · exact .uncited rfl
  · exact hf m n

theorem onNumbers_citesOnly (op : BinaryOp) (a b : Value) : CitesOnly P (onNumbers op f a b) := by
  unfold onNumbers
  split
  · exact hf _ _
  · exact .uncited rfl

end Numbers

theorem ordered_citesOnly (op : BinaryOp) (test : Ordering → Bool) (a b : Value) :
    CitesOnly P (ordered op test a b) := by
  unfold ordered
  split
  · exact .ok _
  · exact onNumbers_citesOnly (fun _ _ => .ok _) _ _ _

theorem sum_citesOnly (a b : Value) : CitesOnly P (sum a b) := by
  unfold sum
  split
  · exact .ok _
  · exact .ok _
  · exact onNumbers_citesOnly (arithmetic_citesOnly _ _ _) _ _ _

/-- No operator cites a name. -/
theorem apply_citesOnly (op : BinaryOp) (a b : Value) : CitesOnly P (op.apply a b) := by
  cases op with
  | add => exact sum_citesOnly a b
  | sub => exact onNumbers_citesOnly (arithmetic_citesOnly _ _ _) _ _ _
  | mul => exact onNumbers_citesOnly (arithmetic_citesOnly _ _ _) _ _ _
  | div => exact onNumbers_citesOnly (divided_citesOnly quotient_citesOnly) _ _ _
  | mod => exact onNumbers_citesOnly (divided_citesOnly (arithmetic_citesOnly _ _ _)) _ _ _
  | equal | notEqual => exact .ok _
  | less | greater | lessEqual | greaterEqual => exact ordered_citesOnly _ _ _ _

end BinaryOp

theorem UnaryOp.apply_citesOnly (op : UnaryOp) (v : Value) : CitesOnly P (op.apply v) := by
  unfold UnaryOp.apply
  split
  · split
    · exact .ok _
    · exact .uncited rfl
  · exact .ok _
  · exact .ok _
  · exact .uncited rfl

/-! ## Functions -/

namespace Builtin

theorem numberOf_citesOnly (f : Builtin) (v : Value) : CitesOnly P (numberOf f v) := by
  unfold numberOf
  split
  · exact .ok _
  · exact .uncited rfl

theorem textOf_citesOnly (f : Builtin) (v : Value) : CitesOnly P (textOf f v) := by
  unfold textOf
  split
  · exact .ok _
  · exact .uncited rfl

theorem listOf_citesOnly (f : Builtin) (v : Value) : CitesOnly P (listOf f v) := by
  unfold listOf
  split
  · exact .ok _
  · exact .uncited rfl

theorem checked_citesOnly (f : Builtin) (n : Option Int64) : CitesOnly P (checked f n) := by
  cases n with
  | none => exact .uncited rfl
  | some n => exact .ok _

theorem finite_citesOnly (f : Builtin) (x : Float) : CitesOnly P (finite f x) := by
  unfold finite
  split
  · exact .uncited rfl
  · split
    · exact .ok _
    · exact .uncited rfl

theorem absoluteValue_citesOnly (v : Value) : CitesOnly P (absoluteValue v) := by
  unfold absoluteValue
  split
  · next h => exact (numberOf_citesOnly .abs v).of_error h
  · exact checked_citesOnly .abs _
  · exact .ok _

theorem extremeFrom_citesOnly (f : Builtin) (keep : Ordering) (best : Number)
    (more : List Value) : CitesOnly P (extremeFrom f keep best more) := by
  induction more generalizing best with
  | nil => exact .ok _
  | cons v more ih =>
    unfold extremeFrom
    split
    · next h => exact (numberOf_citesOnly f v).of_error h
    · exact ih _

theorem extreme_citesOnly (f : Builtin) (keep : Ordering) (first : Value) (more : List Value) :
    CitesOnly P (extreme f keep first more) := by
  unfold extreme
  split
  · next h => exact (numberOf_citesOnly f first).of_error h
  · exact extremeFrom_citesOnly f keep _ more

theorem squareRoot_citesOnly (v : Value) : CitesOnly P (squareRoot v) := by
  unfold squareRoot
  split
  · next h => exact (numberOf_citesOnly .sqrt v).of_error h
  · split
    · exact .uncited rfl
    · exact finite_citesOnly .sqrt _

theorem whole_citesOnly (f : Builtin) (round : Rat → Int) (v : Value) :
    CitesOnly P (whole f round v) := by
  unfold whole
  split
  · next h => exact (numberOf_citesOnly f v).of_error h
  · exact .ok _
  · exact checked_citesOnly f _

theorem floatPower_citesOnly (base exponent : Number) :
    CitesOnly P (floatPower base exponent) := by
  unfold floatPower
  split
  · exact .uncited rfl
  · exact finite_citesOnly .pow _

theorem power_citesOnly (base exponent : Value) : CitesOnly P (power base exponent) := by
  unfold power
  split
  · next h => exact (numberOf_citesOnly .pow base).of_error h
  · split
    · next h => exact (numberOf_citesOnly .pow exponent).of_error h
    · split
      · -- two integers
        split
        · exact checked_citesOnly .pow _
        · exact floatPower_citesOnly _ _
      · exact floatPower_citesOnly _ _

theorem length_citesOnly (v : Value) : CitesOnly P (length v) := by
  unfold length
  split
  · exact checked_citesOnly .len _
  · exact checked_citesOnly .len _
  · exact .uncited rfl

theorem firstItem_citesOnly (v : Value) : CitesOnly P (firstItem v) := by
  unfold firstItem
  split
  · next h => exact (listOf_citesOnly .head v).of_error h
  · exact .uncited rfl
  · exact .ok _

theorem laterItems_citesOnly (v : Value) : CitesOnly P (laterItems v) := by
  unfold laterItems
  split
  · next h => exact (listOf_citesOnly .tail v).of_error h
  · exact .uncited rfl
  · exact .ok _

theorem allItems_citesOnly (vs : List Value) : CitesOnly P (allItems vs) := by
  induction vs with
  | nil => exact .ok _
  | cons v more ih =>
    unfold allItems
    split
    · next h => exact (listOf_citesOnly .join v).of_error h
    · exact ih.map _

theorem toNumber_citesOnly (v : Value) : CitesOnly P (toNumber v) := by
  unfold toNumber
  split
  · exact .ok _
  · split
    · next h => exact (textOf_citesOnly .num v).of_error h
    · split
      · exact .ok _
      · -- The text is quoted in the fault, but it is no name.
        exact .uncited rfl

theorem apply_citesOnly (f : Builtin) (arguments : Arguments f.arity) :
    CitesOnly P (f.apply arguments) := by
  cases f with
  | abs => exact absoluteValue_citesOnly _
  | min | max => exact extreme_citesOnly _ _ _ _
  | sqrt => exact squareRoot_citesOnly _
  | floor | ceil | round => exact whole_citesOnly _ _ _
  | pow => exact power_citesOnly _ _
  | len => exact length_citesOnly _
  | upper | lower => exact (textOf_citesOnly _ _).map _
  | list | str | typeOf => exact .ok _
  | head => exact firstItem_citesOnly _
  | tail => exact laterItems_citesOnly _
  | join => exact (allItems_citesOnly _).map _
  | num => exact toNumber_citesOnly _

/-- No function cites a name. -/
theorem call_citesOnly (f : Builtin) (arguments : List Value) :
    CitesOnly P (f.call arguments) := by
  unfold call
  split
  · exact f.apply_citesOnly _
  · -- The wrong number of arguments is no fault of a name.
    exact .uncited rfl

end Builtin

/-! ## Expressions -/

namespace Expr

/-- The name that an expression begins with, if it looks one up or calls one. -/
def word? : Expr → Option String
  | .name s _ => some s
  | .call f _ _ _ => some f
  | _ => none

mutual

/-- An expression cites only names that are looked up or called in it. -/
theorem eval_citesOnly (env : Environment) :
    ∀ e : Expr, (∀ n ∈ e.nodes, ∀ name ∈ n.word?, P name) → CitesOnly P (e.eval env)
  | .literal v _, _ => .ok v
  | .list items _, h => by
    have hitems := evalAll_citesOnly env items fun n hn => h n (List.mem_cons_of_mem _ hn)
    rw [eval]
    split
    · next herror => exact hitems.of_error herror
    · exact .ok _
  | .name s _, h => by
    rw [eval]
    split
    · exact .ok _
    · -- The name is not bound, and the node itself has it.
      exact .error (h _ List.mem_cons_self)
  | .call f _ arguments _, h => by
    have harguments := evalAll_citesOnly env arguments fun n hn => h n (List.mem_cons_of_mem _ hn)
    rw [eval]
    split
    · -- No function has the name, and no argument has been looked at.
      exact .error (h _ List.mem_cons_self)
    · split
      · next herror => exact harguments.of_error herror
      · exact Builtin.call_citesOnly _ _
  | .binary op left right _, h => by
    have hleft := eval_citesOnly env left fun n hn =>
      h n (List.mem_cons_of_mem _ (List.mem_append_left _ hn))
    have hright := eval_citesOnly env right fun n hn =>
      h n (List.mem_cons_of_mem _ (List.mem_append_right _ hn))
    rw [eval]
    split
    · next herror => exact hleft.of_error herror
    · split
      · next herror => exact hright.of_error herror
      · exact op.apply_citesOnly _ _
  | .unary op operand _, h => by
    have hoperand := eval_citesOnly env operand fun n hn => h n (List.mem_cons_of_mem _ hn)
    rw [eval]
    split
    · next herror => exact hoperand.of_error herror
    · exact op.apply_citesOnly _
  | .paren inner _, h => by
    rw [eval]
    exact eval_citesOnly env inner fun n hn => h n (List.mem_cons_of_mem _ hn)

theorem evalAll_citesOnly (env : Environment) :
    ∀ es : List Expr, (∀ n ∈ nodesAll es, ∀ name ∈ n.word?, P name) →
      CitesOnly P (evalAll env es)
  | [], _ => .ok _
  | e :: more, h => by
    have hfirst := eval_citesOnly env e fun n hn => h n (List.mem_append_left _ hn)
    have hmore := evalAll_citesOnly env more fun n hn => h n (List.mem_append_right _ hn)
    rw [evalAll]
    split
    · next herror => exact hfirst.of_error herror
    · split
      · next herror => exact hmore.of_error herror
      · exact .ok _

end

end Expr

theorem Statement.eval_citesOnly {env : Environment} {s : Statement}
    (h : ∀ n ∈ s.nodes, ∀ name ∈ n.word?, P name) : CitesOnly P (s.eval env) := by
  cases s with
  | blank => exact .ok _
  | expr e =>
    have he := Expr.eval_citesOnly env e h
    rw [Statement.eval]
    split
    · next herror => exact he.of_error herror
    · exact .ok _
  | assign name span e =>
    have he := Expr.eval_citesOnly env e h
    rw [Statement.eval]
    split
    · next herror => exact he.of_error herror
    · exact .ok _

end Citations

/-! ## Tokens -/

/-- The name that an operand begins with is one of its tokens. -/
theorem Grammar.Operand.exists_name {us : List Token} {e : Expr} (h : Operand us e) :
    ∀ name ∈ e.word?, ∃ t ∈ us, t.kind = .name name := by
  intro name hname
  cases h with
  | name ht | call ht =>
    obtain rfl := Option.some.inj hname
    exact ⟨_, List.mem_cons_self, ht⟩
  | literal | list | paren | unary => cases hname

theorem Grammar.Expression.exists_name {us : List Token} {e : Expr}
    (h : Expression Operand us e) : ∀ name ∈ e.word?, ∃ t ∈ us, t.kind = .name name := by
  refine Expression.induction (P := fun us e => ∀ name ∈ e.word?, ∃ t ∈ us, t.kind = .name name)
    (fun _ _ h => h.exists_name) ?_ h
  intro us vs t op l r _ _ _ name hname
  cases hname

/-- The names in the tree of a line are names by the rules of the language. -/
theorem Session.isName_of_node {line : String} {statement : Statement}
    (h : Session.read line = .ok statement) :
    ∀ n ∈ statement.nodes, ∀ name ∈ n.word?, IsName name := by
  obtain ⟨ts, q, hlexes, hsentence, -⟩ := Session.read_eq_ok_iff.1 h
  have htree : ∀ {us : List Token} {e : Expr}, Expression Operand us e → (∀ t ∈ us, t ∈ ts) →
      ∀ n ∈ e.nodes, ∀ name ∈ n.word?, IsName name := by
    intro us e he hsub n hn name hname
    -- The tokens of the node stand side by side in the line, and the name is among them.
    obtain ⟨pre, mid, post, rfl, hmid⟩ := he.consecutive n hn
    obtain ⟨t, ht, hkind⟩ := hmid.exists_name name hname
    have hmem : t ∈ ts := hsub t (by simp [ht])
    exact isName_of_word (hlexes.word_of_name (List.mem_append_left _ hmem) hkind)
  cases hsentence with
  | blank => simp [Statement.nodes]
  | expr he => exact htree he fun _ ht => ht
  | assign _ _ he => exact htree he (by simp +contextual)

/-- A name that the fault of a line cites is a name by the rules of the language, whatever names the
session binds. -/
theorem Session.isName_of_cited {s : Session} {line : String} {e : EvalError}
    (h : (s.process line).1 = .error (.eval e)) : ∀ name ∈ e.cited?, IsName name := by
  rcases Session.failure_cases h with ⟨_, hlex, _⟩ | ⟨_, _, hparse, _⟩ |
    ⟨_, statement, heval, hread, herror⟩
  · cases hlex
  · cases hparse
  · cases heval
    exact Statement.eval_citesOnly (Session.isName_of_node hread) e herror

end Reckoner
