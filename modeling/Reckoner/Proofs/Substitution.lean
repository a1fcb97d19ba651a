import Reckoner.Proofs.Assignment

/-!
# Names and the expressions they stand for

`Expr.replaceNames` puts an expression in the place of every name that a tree looks up. The name of
a function is not looked up and stays. If the expressions have in one environment the results that
the names have in another, then so have the trees, failures included (`Expr.eval_replaceNames`).

Main statement: to look up a name that was just assigned is the same as to evaluate, before the
assignment, the expression that gave the value (`eval_substitute`). The expression may contain the
name itself, and the name may have been bound before.
-/

set_option autoImplicit false

namespace Reckoner

namespace Expr

mutual

/-- The tree with `f n s` in the place of every name `n` that is looked up at the span `s`. -/
def replaceNames (f : String → Span → Expr) : Expr → Expr
  | .literal v s => .literal v s
  | .list items s => .list (replaceNamesAll f items) s
  | .name n s => f n s
  | .call function functionSpan arguments s =>
    .call function functionSpan (replaceNamesAll f arguments) s
  | .binary op left right s => .binary op (left.replaceNames f) (right.replaceNames f) s
  | .unary op operand s => .unary op (operand.replaceNames f) s
  | .paren inner s => .paren (inner.replaceNames f) s

/-- Several trees with their names replaced. -/
def replaceNamesAll (f : String → Span → Expr) : List Expr → List Expr
  | [] => []
  | e :: more => e.replaceNames f :: replaceNamesAll f more

end

/-- The tree `e` with the expression `replacement` in the place of every lookup of the name `x`. -/
def substitute (e : Expr) (x : String) (replacement : Expr) : Expr :=
  e.replaceNames fun n s => if n = x then replacement else .name n s

section

variable {f : String → Span → Expr} {a b : Environment}

mutual

/-- A tree has in one environment the result that it has in another with its names replaced,
provided that the names have the results of their replacements. -/
theorem eval_replaceNames (h : ∀ n s, (Expr.name n s).eval a = (f n s).eval b) :
    ∀ e : Expr, e.eval a = (e.replaceNames f).eval b
  | .literal _ _ => rfl
  | .list items _ => by simp only [replaceNames, eval, evalAll_replaceNamesAll h items]
  | .name n s => h n s
  | .call _ _ arguments _ => by
    -- The function is looked up in the table of functions, which is the same on both sides.
    simp only [replaceNames, eval, evalAll_replaceNamesAll h arguments]
  | .binary _ left right _ => by
    simp only [replaceNames, eval, eval_replaceNames h left, eval_replaceNames h right]
  | .unary _ operand _ => by simp only [replaceNames, eval, eval_replaceNames h operand]
  | .paren inner _ => by simp only [replaceNames, eval, eval_replaceNames h inner]

/-- Rows of expressions stop at the same place, with the same fault. -/
theorem evalAll_replaceNamesAll (h : ∀ n s, (Expr.name n s).eval a = (f n s).eval b) :
    ∀ es : List Expr, evalAll a es = evalAll b (replaceNamesAll f es)
  | [] => rfl
  | e :: more => by
    simp only [replaceNamesAll, evalAll, eval_replaceNames h e, evalAll_replaceNamesAll h more]

end

end

end Expr

/-- With a name assigned the value of an expression, every expression has the result, be it a value
or a fault, that it has before the assignment with the first expression in the place of the name. -/
theorem eval_substitute {env : Environment} {x : String} {replacement : Expr} {v : Value}
    (h : replacement.eval env = .ok v) (e : Expr) :
    e.eval (env.assign x v) = (e.substitute x replacement).eval env := by
  apply Expr.eval_replaceNames
  intro n s
  by_cases hn : n = x
  · -- The name has the assigned value, whatever it had before.
    rw [if_pos hn, h, Expr.eval, Environment.get?_assign, if_pos hn]
  · rw [if_neg hn, Expr.eval, Expr.eval, Environment.get?_assign, if_neg hn]

/-- The expression `len + 1`, where `len` is a name. -/
def lengthAndOne : Expr :=
  .binary .add (.name "len" ⟨0, 3⟩) (.literal (.int 1) ⟨6, 7⟩) ⟨0, 7⟩

/-- The expression `len([len]) * len`, where `len` is a function once and a name twice. -/
def lengthTwice : Expr :=
  .binary .mul (.call "len" ⟨0, 3⟩ [.list [.name "len" ⟨5, 8⟩] ⟨4, 9⟩] ⟨0, 10⟩)
    (.name "len" ⟨13, 16⟩) ⟨0, 16⟩

/-- A name that is bound before, stands in the expression assigned to it, and is the name of a
function as well. Only the lookups are replaced. -/
theorem eval_substitute_lengthTwice :
    let env := Environment.empty.assign "len" (.int 3)
    lengthAndOne.eval env = .ok (.int 4) ∧
    lengthTwice.substitute "len" lengthAndOne =
      .binary .mul (.call "len" ⟨0, 3⟩ [.list [lengthAndOne] ⟨4, 9⟩] ⟨0, 10⟩) lengthAndOne ⟨0, 16⟩ ∧
    (lengthTwice.substitute "len" lengthAndOne).eval env = .ok (.int 4) := by
  intro env
  have hvalue : lengthAndOne.eval env = .ok (.int 4) := by rfl
  refine ⟨hvalue, rfl, ?_⟩
  rw [← eval_substitute hvalue]
  rfl

end Reckoner
