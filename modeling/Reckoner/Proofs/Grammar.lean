import Reckoner.Proofs.Tree
import Reckoner.Statement.Parser

/-!
# The grammar of statements

Derivations of trees from rows of tokens, after the rules

  statement  = [ name "=" ] expression | empty
  expression = sum [ comparison-operator sum ]
  sum        = product { ( "+" | "-" ) product }
  product    = operand { ( "*" | "/" | "%" ) operand }
  operand    = ( "-" | "not" ) operand | literal | name [ "(" arguments ")" ]
             | "(" expression ")" | "[" arguments "]"
  arguments  = [ expression { "," expression } [ "," ] ]

Each repetition of operators is a `Chain`, whose trees lean to the left; a comparison has at most
two sides. Every node carries the span from its first token to its last. Nothing here limits how
deep or how long a derivation is.

The rules are nested in each other, so induction over derivations is stated apart:
`Expression.induction` for operands joined by operators, and `Operand.induction` for what stands
inside an operand.
-/

set_option autoImplicit false

namespace Reckoner

/-- How tightly a binary operator binds. -/
inductive Layer where
  | comparison
  | sum
  | product
deriving DecidableEq

namespace BinaryOp

/-- How tightly the operator binds. -/
def layer : BinaryOp → Layer
  | .equal | .notEqual | .less | .greater | .lessEqual | .greaterEqual => .comparison
  | .add | .sub => .sum
  | .mul | .div | .mod => .product

/-- The token that the operator is written with. -/
def token : BinaryOp → Token.Kind
  | .equal => .equal
  | .notEqual => .notEqual
  | .less => .less
  | .greater => .greater
  | .lessEqual => .lessEqual
  | .greaterEqual => .greaterEqual
  | .add => .plus
  | .sub => .minus
  | .mul => .star
  | .div => .slash
  | .mod => .percent

end BinaryOp

/-- The token that the operator is written with. -/
def UnaryOp.token : UnaryOp → Token.Kind
  | .neg => .minus
  | .not => .not

namespace Grammar

/-- The tokens that are literals, with their values. -/
inductive Literal : Token.Kind → Value → Prop
  | int (n : Int64) : Literal (.int n) (.int n)
  | float (x : Float) : Literal (.float x) (.float x)
  | text (s : String) : Literal (.text s) (.text s)
  | bool (b : Bool) : Literal (.bool b) (.bool b)

/-- One or more operands with operators of one layer between them, grouped to the left. -/
inductive Chain (layer : Layer) (R : List Token → Expr → Prop) : List Token → Expr → Prop
  | first {us : List Token} {e : Expr} : R us e → Chain layer R us e
  | next {us vs : List Token} {t : Token} {op : BinaryOp} {l r : Expr} :
      Chain layer R us l → op.layer = layer → t.kind = op.token → R vs r →
      Chain layer R (us ++ t :: vs) (.binary op l r (l.span.merge r.span))

/-- One operand, or two with a comparison between them. -/
inductive Comparison (R : List Token → Expr → Prop) : List Token → Expr → Prop
  | one {us : List Token} {e : Expr} : R us e → Comparison R us e
  | two {us vs : List Token} {t : Token} {op : BinaryOp} {l r : Expr} :
      R us l → op.layer = .comparison → t.kind = op.token → R vs r →
      Comparison R (us ++ t :: vs) (.binary op l r (l.span.merge r.span))

/-- Comparisons of sums of products of operands. -/
abbrev Expression (R : List Token → Expr → Prop) : List Token → Expr → Prop :=
  Comparison (Chain .sum (Chain .product R))

/-- Items separated by commas, perhaps none, and perhaps with a comma behind the last. -/
inductive Arguments (R : List Token → Expr → Prop) : List Token → List Expr → Prop
  | none : Arguments R [] []
  | last {us : List Token} {e : Expr} : R us e → Arguments R us [e]
  | cons {us vs : List Token} {t : Token} {e : Expr} {es : List Expr} :
      R us e → t.kind = .comma → Arguments R vs es → Arguments R (us ++ t :: vs) (e :: es)

/-- Operands. The rules for what stands inside brackets are those of `Expression`. -/
inductive Operand : List Token → Expr → Prop
  | literal {t : Token} {v : Value} : Literal t.kind v → Operand [t] (.literal v t.span)
  | name {t : Token} {s : String} : t.kind = .name s → Operand [t] (.name s t.span)
  | call {t o c : Token} {us : List Token} {s : String} {es : List Expr} :
      t.kind = .name s → o.kind = .opening .round →
      Arguments (Comparison (Chain .sum (Chain .product Operand))) us es →
      c.kind = .closing .round →
      Operand (t :: o :: (us ++ [c])) (.call s t.span es (t.span.merge c.span))
  | list {o c : Token} {us : List Token} {es : List Expr} :
      o.kind = .opening .square →
      Arguments (Comparison (Chain .sum (Chain .product Operand))) us es →
      c.kind = .closing .square →
      Operand (o :: (us ++ [c])) (.list es (o.span.merge c.span))
  | paren {o c : Token} {us : List Token} {e : Expr} :
      o.kind = .opening .round → Comparison (Chain .sum (Chain .product Operand)) us e →
      c.kind = .closing .round →
      Operand (o :: (us ++ [c])) (.paren e (o.span.merge c.span))
  | unary {t : Token} {us : List Token} {op : UnaryOp} {e : Expr} :
      t.kind = op.token → Operand us e →
      Operand (t :: us) (.unary op e (t.span.merge e.span))

/-- Statements before the token of the end. A blank one has the span of that token. -/
inductive Sentence (finish : Token) : List Token → Statement → Prop
  | blank : Sentence finish [] (.blank finish.span)
  | expr {us : List Token} {e : Expr} : Expression Operand us e → Sentence finish us (.expr e)
  | assign {t a : Token} {us : List Token} {s : String} {e : Expr} :
      t.kind = .name s → a.kind = .assign → Expression Operand us e →
      Sentence finish (t :: a :: us) (.assign s t.span e)

/-! ## Induction over derivations -/

section Induction

variable {R S : List Token → Expr → Prop}

/-- An operand is an expression. -/
theorem Expression.of_operand {us : List Token} {e : Expr} (h : R us e) : Expression R us e :=
  .one (.first (.first h))

theorem Chain.mono {layer : Layer} (hRS : ∀ us e, R us e → S us e) {us : List Token} {e : Expr}
    (h : Chain layer R us e) : Chain layer S us e := by
  induction h with
  | first h => exact .first (hRS _ _ h)
  | next _ hop ht hr ih => exact .next ih hop ht (hRS _ _ hr)

theorem Expression.mono (hRS : ∀ us e, R us e → S us e) {us : List Token} {e : Expr}
    (h : Expression R us e) : Expression S us e := by
  have sum : ∀ us e, Chain .sum (Chain .product R) us e → Chain .sum (Chain .product S) us e :=
    fun _ _ => Chain.mono fun _ _ => Chain.mono hRS
  cases h with
  | one h => exact .one (sum _ _ h)
  | two hl hop ht hr => exact .two (sum _ _ hl) hop ht (sum _ _ hr)

/-- What holds of operands and is kept by joining two trees holds of expressions. The layers of
the operators do not matter here, so sums, products and comparisons are one case. -/
theorem Expression.induction {P : List Token → Expr → Prop} (operand : ∀ us e, R us e → P us e)
    (binary : ∀ {us vs : List Token} {t : Token} {op : BinaryOp} {l r : Expr},
      Expression R (us ++ t :: vs) (.binary op l r (l.span.merge r.span)) → P us l → P vs r →
      P (us ++ t :: vs) (.binary op l r (l.span.merge r.span)))
    {us : List Token} {e : Expr} (h : Expression R us e) : P us e := by
  have product : ∀ {us : List Token} {e : Expr}, Chain .product R us e → P us e := by
    intro us e h
    induction h with
    | first h => exact operand _ _ h
    | next hl hop ht hr ih => exact binary (.one (.first (.next hl hop ht hr))) ih (operand _ _ hr)
  have sum : ∀ {us : List Token} {e : Expr}, Chain .sum (Chain .product R) us e → P us e := by
    intro us e h
    induction h with
    | first h => exact product h
    | next hl hop ht hr ih => exact binary (.one (.next hl hop ht hr)) ih (product hr)
  cases h with
  | one h => exact sum h
  | two hl hop ht hr => exact binary (.two hl hop ht hr) (sum hl) (sum hr)

end Induction

/-- Induction over derivations of operands. What stands inside brackets is an expression, or
arguments, of operands for which the motive is already known. -/
theorem Operand.induction {motive : (us : List Token) → (e : Expr) → Operand us e → Prop}
    (literal : ∀ {t : Token} {v : Value} (hv : Literal t.kind v),
      motive [t] (.literal v t.span) (.literal hv))
    (name : ∀ {t : Token} {s : String} (hk : t.kind = .name s),
      motive [t] (.name s t.span) (.name hk))
    (call : ∀ {t o c : Token} {us : List Token} {s : String} {es : List Expr}
      (hk : t.kind = .name s) (ho : o.kind = .opening .round)
      (h : Arguments (Expression Operand) us es) (hc : c.kind = .closing .round),
      Arguments (Expression fun us e => ∃ h : Operand us e, motive us e h) us es →
      motive (t :: o :: (us ++ [c])) (.call s t.span es (t.span.merge c.span)) (.call hk ho h hc))
    (list : ∀ {o c : Token} {us : List Token} {es : List Expr} (ho : o.kind = .opening .square)
      (h : Arguments (Expression Operand) us es) (hc : c.kind = .closing .square),
      Arguments (Expression fun us e => ∃ h : Operand us e, motive us e h) us es →
      motive (o :: (us ++ [c])) (.list es (o.span.merge c.span)) (.list ho h hc))
    (paren : ∀ {o c : Token} {us : List Token} {e : Expr} (ho : o.kind = .opening .round)
      (h : Expression Operand us e) (hc : c.kind = .closing .round),
      Expression (fun us e => ∃ h : Operand us e, motive us e h) us e →
      motive (o :: (us ++ [c])) (.paren e (o.span.merge c.span)) (.paren ho h hc))
    (unary : ∀ {t : Token} {us : List Token} {op : UnaryOp} {e : Expr} (ht : t.kind = op.token)
      (h : Operand us e), motive us e h →
      motive (t :: us) (.unary op e (t.span.merge e.span)) (.unary ht h))
    {us : List Token} {e : Expr} (h : Operand us e) : motive us e h := by
  -- One motive for each rule through which the rules of operands are nested.
  refine @Operand.rec motive
    (fun us es _ => Arguments (Expression fun us e => ∃ h : Operand us e, motive us e h) us es)
    (fun us e _ => Expression (fun us e => ∃ h : Operand us e, motive us e h) us e)
    (fun us e _ => Chain .sum (Chain .product fun us e => ∃ h : Operand us e, motive us e h) us e)
    (fun us e _ => Chain .product (fun us e => ∃ h : Operand us e, motive us e h) us e)
    literal name call list paren unary .none ?_ ?_ ?_ ?_ ?_ ?_ ?_ ?_ us e h
  · exact fun _ ih => .last ih
  · exact fun _ ht _ ih ihs => .cons ih ht ihs
  · exact fun _ ih => .one ih
  · exact fun _ hop ht _ ihl ihr => .two ihl hop ht ihr
  · exact fun _ ih => .first ih
  · exact fun _ hop ht _ ihl ihr => .next ihl hop ht ihr
  · exact fun h ih => .first ⟨h, ih⟩
  · exact fun _ hop ht hr ihl ihr => .next ihl hop ht ⟨hr, ihr⟩

/-! ## First tokens -/

theorem Literal.ne_closing {k : Token.Kind} {v : Value} (h : Literal k v) (b : Bracket) :
    k ≠ .closing b := by
  cases h <;> simp

/-- An operand begins with a token that closes no bracket. -/
theorem Operand.head {us : List Token} {e : Expr} (h : Operand us e) :
    ∃ t vs, us = t :: vs ∧ ∀ b, t.kind ≠ .closing b := by
  cases h with
  | literal hv => exact ⟨_, _, rfl, hv.ne_closing⟩
  | name hk => exact ⟨_, _, rfl, by simp [hk]⟩
  | call hk ho h hc => exact ⟨_, _, rfl, by simp [hk]⟩
  | list ho h hc => exact ⟨_, _, rfl, by simp [ho]⟩
  | paren ho h hc => exact ⟨_, _, rfl, by simp [ho]⟩
  | @unary t us op e ht h => exact ⟨_, _, rfl, by cases op <;> simp [ht, UnaryOp.token]⟩

/-- An expression begins with a token that closes no bracket. -/
theorem Expression.head {us : List Token} {e : Expr} (h : Expression Operand us e) :
    ∃ t vs, us = t :: vs ∧ ∀ b, t.kind ≠ .closing b := by
  refine Expression.induction (fun _ _ h => h.head) ?_ h
  rintro us vs t op l r - ⟨u, ws, rfl, hu⟩ -
  exact ⟨u, _, rfl, hu⟩

end Grammar

end Reckoner
