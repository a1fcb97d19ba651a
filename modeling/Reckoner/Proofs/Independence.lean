import Mathlib.Control.Monad.Basic
import Reckoner.Proofs.Assignment

/-!
# Lines that do not touch each other

An expression looks up the names that stand in it and nothing else, so it has one result in all
environments that agree on these names (`Expr.eval_congr`). The name of a function is not looked up
in an environment and does not count.

Two lines are independent if no name that the one assigns stands in the other, neither as a name
that is looked up nor as the name that is assigned. Independent lines commute
(`process_commute`): either may come first, each has the outcome that it would have alone, and in
the end every name has the same value. Only the order of the bindings may differ.
-/

set_option autoImplicit false

namespace Reckoner

/-! ## Names that are looked up -/

namespace Expr

mutual

/-- The names that an expression looks up. The names of functions are not among them. -/
def names : Expr → List String
  | .literal _ _ => []
  | .list items _ => namesAll items
  | .name s _ => [s]
  | .call _ _ arguments _ => namesAll arguments
  | .binary _ left right _ => left.names ++ right.names
  | .unary _ operand _ => operand.names
  | .paren inner _ => inner.names

/-- The names that several expressions look up. -/
def namesAll : List Expr → List String
  | [] => []
  | e :: more => e.names ++ namesAll more

end

end Expr

/-- The environments give every one of the names the same value, or none of them gives it one. -/
def Environment.AgreeOn (names : List String) (a b : Environment) : Prop :=
  ∀ n ∈ names, a.get? n = b.get? n

theorem Environment.agreeOn_append {xs ys : List String} {a b : Environment} :
    AgreeOn (xs ++ ys) a b ↔ AgreeOn xs a b ∧ AgreeOn ys a b :=
  List.forall_mem_append

namespace Expr

mutual

/-- An expression has one result in environments that agree on the names it looks up. -/
theorem eval_congr {a b : Environment} :
    ∀ e : Expr, Environment.AgreeOn e.names a b → e.eval a = e.eval b
  | .literal _ _, _ => rfl
  | .list items _, h => by simp only [eval, evalAll_congr items h]
  | .name s _, h => by
    have hs : a.get? s = b.get? s := h s List.mem_cons_self
    simp only [eval, hs]
  | .call f _ arguments _, h => by simp only [eval, evalAll_congr arguments h]
  | .binary op left right _, h => by
    rw [names, Environment.agreeOn_append] at h
    simp only [eval, eval_congr left h.1, eval_congr right h.2]
  | .unary op operand _, h => by simp only [eval, eval_congr operand h]
  | .paren inner _, h => by simp only [eval, eval_congr inner h]

theorem evalAll_congr {a b : Environment} :
    ∀ es : List Expr, Environment.AgreeOn (namesAll es) a b → evalAll a es = evalAll b es
  | [], _ => rfl
  | e :: more, h => by
    rw [namesAll, Environment.agreeOn_append] at h
    simp only [evalAll, eval_congr e h.1, evalAll_congr more h.2]

end

end Expr

namespace Statement

/-- The names that a statement looks up. -/
def names : Statement → List String
  | .blank _ => []
  | .expr e => e.names
  | .assign _ _ e => e.names

/-- The name that a statement assigns. -/
def target? : Statement → Option String
  | .blank _ => none
  | .expr _ => none
  | .assign name _ _ => some name

end Statement

/-! ## Lines -/

namespace Session

/-- The names that a line looks up: those of its statement, and none if it says no statement. -/
def lookups (line : String) : List String :=
  match read line with
  | .ok statement => statement.names
  | .error _ => []

/-- The name that a line assigns if it has a value. -/
def target? (line : String) : Option String :=
  match read line with
  | .ok statement => statement.target?
  | .error _ => none

/-- A line has one outcome in sessions that agree on the names it looks up. -/
theorem process_fst_congr {s t : Session} {line : String}
    (h : Environment.AgreeOn (lookups line) s.environment t.environment) :
    (s.process line).1 = (t.process line).1 := by
  cases hread : read line with
  | error f => simp only [process, hread]
  | ok statement =>
    rw [lookups, hread] at h
    cases statement with
    | blank => simp only [process, hread, Statement.eval]
    | expr e =>
      have heval : e.eval s.environment = e.eval t.environment := e.eval_congr h
      cases hvalue : e.eval t.environment <;>
        simp only [process, hread, Statement.eval, heval, hvalue]
    | assign name nameSpan e =>
      have heval : e.eval s.environment = e.eval t.environment := e.eval_congr h
      cases hvalue : e.eval t.environment <;>
        simp only [process, hread, Statement.eval, heval, hvalue]

/-- What a line assigns is read off the line and its outcome. -/
theorem assigned?_congr {s t : Session} {line : String}
    (h : (s.process line).1 = (t.process line).1) : s.assigned? line = t.assigned? line := by
  simp only [assigned?, h]

theorem target?_of_assigned? {s : Session} {line name : String} {v : Value}
    (h : s.assigned? line = some (name, v)) : target? line = some name := by
  obtain ⟨⟨nameSpan, e, hread⟩, -⟩ := assigned?_cases h
  simp only [target?, hread, Statement.target?]

/-- An assignment gives its name the new value and leaves every other name as it is. -/
theorem get?_update (s : Session) (assignment : Option (String × Value)) (n : String) :
    (s.update assignment).environment.get? n =
      match assignment with
      | some (name, v) => if n = name then some v else s.environment.get? n
      | none => s.environment.get? n := by
  cases assignment with
  | none => rfl
  | some assignment => exact s.environment.get?_assign assignment.1 assignment.2 n

/-- A line changes the value of no name but the one that it assigns. -/
theorem get?_process_of_ne (s : Session) {line n : String} (h : n ∉ target? line) :
    (s.process line).2.environment.get? n = s.environment.get? n := by
  rw [process_snd, get?_update]
  cases hassigned : s.assigned? line with
  | none => rfl
  | some assignment =>
    have hne : n ≠ assignment.1 := by
      rintro rfl
      exact h (target?_of_assigned? hassigned)
    exact if_neg hne

/-- No name that the line `l` assigns stands in the line `m`. -/
def Spares (l m : String) : Prop :=
  ∀ n ∈ target? l, n ∉ lookups m ∧ n ∉ target? m

/-- A line behind one that spares it has the outcome that it has without it. -/
theorem Spares.process_fst {l m : String} (h : Spares l m) (s : Session) :
    ((s.process l).2.process m).1 = (s.process m).1 := by
  apply process_fst_congr
  intro n hn
  apply get?_process_of_ne
  intro htarget
  exact (h n htarget).1 hn

/-- Behind a line that spares it, a line makes the assignment that it makes without it. -/
theorem Spares.process_snd {l m : String} (h : Spares l m) (s : Session) :
    ((s.process l).2.process m).2 = (s.update (s.assigned? l)).update (s.assigned? m) := by
  rw [Session.process_snd, assigned?_congr (h.process_fst s), Session.process_snd]

/-- Assignments to two names may be made in either order. -/
theorem get?_update_comm (s : Session) {x y : String} (hne : x ≠ y) (v w : Value) (n : String) :
    ((s.update (some (x, v))).update (some (y, w))).environment.get? n =
      ((s.update (some (y, w))).update (some (x, v))).environment.get? n := by
  simp only [get?_update]
  by_cases hx : n = x
  · -- Then it is not `y`, and the value is `v` in both orders.
    have hy : n ≠ y := hx ▸ hne
    simp only [if_pos hx, if_neg hy]
  · simp only [if_neg hx]

end Session

/-- No name that one of the lines assigns stands in the other. -/
structure Independent (l m : String) : Prop where
  left : Session.Spares l m
  right : Session.Spares m l

/-- Two independent lines may be processed in either order. Each of them has the outcome that it has
in the other order, be it a value, nothing or a failure of any stage, and in the end every name has
the same value, or is free, in both orders. -/
theorem process_commute (s : Session) {l m : String} (h : Independent l m) :
    (s.process l).1 = ((s.process m).2.process l).1 ∧
    ((s.process l).2.process m).1 = (s.process m).1 ∧
    ∀ name, ((s.process l).2.process m).2.environment.get? name =
      ((s.process m).2.process l).2.environment.get? name := by
  refine ⟨(h.right.process_fst s).symm, h.left.process_fst s, ?_⟩
  intro name
  -- Both orders make the same assignments, those that the lines make in `s`.
  rw [h.left.process_snd, h.right.process_snd]
  cases hassigned : s.assigned? l with
  | none => rfl
  | some made =>
    cases hassigned' : s.assigned? m with
    | none => rfl
    | some made' =>
      have hne : made.1 ≠ made'.1 := by
        intro heq
        apply (h.left made.1 (Session.target?_of_assigned? hassigned)).2
        rw [heq]
        exact Session.target?_of_assigned? hassigned'
      exact s.get?_update_comm hne made.2 made'.2 name

/-- A line that assigns to the name of a function. -/
def shadowLine : String :=
  "len = 7"

/-- A line that calls the function, and looks up no name but a free one. -/
def countLine : String :=
  "n = len([1, 2]) + missing"

/-- A call does not look up its name, so an assignment to the name of the function does not reach
it; and the line that fails in one order fails in the other. -/
theorem process_commute_shadowLine :
    Independent shadowLine countLine ∧
    let s : Session := ⟨.empty⟩
    ((s.process shadowLine).2.process countLine).1 = .error (.eval (.undefinedName "missing")) ∧
    ((s.process countLine).2.process shadowLine).1 = .ok (some (.int 7)) ∧
    ((s.process countLine).2.process shadowLine).2.environment.get? "len" = some (.int 7) := by
  have htargets : Session.target? shadowLine = some "len" ∧
      Session.target? countLine = some "n" := by
    decide +kernel
  have hlookups : Session.lookups shadowLine = [] ∧ Session.lookups countLine = ["missing"] := by
    decide +kernel
  have hindependent : Independent shadowLine countLine := by
    constructor <;> simp [Session.Spares, htargets, hlookups]
  refine ⟨hindependent, ?_⟩
  intro s
  have hvalue : (s.process shadowLine).1 = .ok (some (.int 7)) := by decide +kernel
  have hfailure : (s.process countLine).1 = .error (.eval (.undefinedName "missing")) := by
    decide +kernel
  have hlast : ((s.process shadowLine).2.process countLine).2.environment.get? "len" =
      some (.int 7) := by decide +kernel
  obtain ⟨hfirst, hsecond, hnames⟩ := process_commute s hindependent
  exact ⟨hsecond.trans hfailure, hfirst.symm.trans hvalue, (hnames "len").symm.trans hlast⟩

end Reckoner
