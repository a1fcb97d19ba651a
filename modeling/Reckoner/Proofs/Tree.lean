import Reckoner.Expr

/-!
# Measures and spans of trees

Two measures bound the trees that can be read: `nesting`, the largest number of parentheses, lists,
calls and unary operators on a path from the root to a leaf, and `operators`, the number of binary
operators in the whole tree. An empty list and a call without arguments count as one level.

`mapSpans` changes every span of a tree and nothing else. A tree whose spans are all put to the
empty span at the start is `bare`; two trees that differ in their spans alone have one bare tree.

`nodes` are the expressions that a tree consists of. None of them exceeds it in a measure.
-/

set_option autoImplicit false

namespace Reckoner

/-- The span moved `offset` bytes toward the start. -/
def Span.back (offset : Nat) (s : Span) : Span :=
  ⟨s.start - offset, s.stop - offset⟩

/-- The span moved `offset` bytes away from the start. -/
def Span.forward (offset : Nat) (s : Span) : Span :=
  ⟨s.start + offset, s.stop + offset⟩

/-- Moving two spans and covering both can be done in either order. -/
theorem Span.back_merge (offset : Nat) (a b : Span) :
    (a.merge b).back offset = (a.back offset).merge (b.back offset) := by
  simp only [Span.back, Span.merge, Span.mk.injEq]
  omega

theorem Span.forward_merge (offset : Nat) (a b : Span) :
    (a.merge b).forward offset = (a.forward offset).merge (b.forward offset) := by
  simp only [Span.forward, Span.merge, Span.mk.injEq]
  omega

theorem Span.forward_back {offset : Nat} {s : Span} (hstart : offset ≤ s.start)
    (hstop : offset ≤ s.stop) : (s.back offset).forward offset = s := by
  simp only [Span.forward, Span.back, Nat.sub_add_cancel hstart, Nat.sub_add_cancel hstop]

namespace Expr

mutual

/-- The largest number of levels on a path from the root to a leaf. -/
def nesting : Expr → Nat
  | .literal _ _ => 0
  | .list items _ => nestingAll items + 1
  | .name _ _ => 0
  | .call _ _ arguments _ => nestingAll arguments + 1
  | .binary _ left right _ => max left.nesting right.nesting
  | .unary _ operand _ => operand.nesting + 1
  | .paren inner _ => inner.nesting + 1

/-- The largest nesting of several trees. -/
def nestingAll : List Expr → Nat
  | [] => 0
  | e :: more => max e.nesting (nestingAll more)

end

mutual

/-- How many binary operators a tree has. -/
def operators : Expr → Nat
  | .literal _ _ => 0
  | .list items _ => operatorsAll items
  | .name _ _ => 0
  | .call _ _ arguments _ => operatorsAll arguments
  | .binary _ left right _ => left.operators + (right.operators + 1)
  | .unary _ operand _ => operand.operators
  | .paren inner _ => inner.operators

/-- How many binary operators several trees have together. -/
def operatorsAll : List Expr → Nat
  | [] => 0
  | e :: more => e.operators + operatorsAll more

end

mutual

/-- The tree with every span changed by `f`. -/
def mapSpans (f : Span → Span) : Expr → Expr
  | .literal v s => .literal v (f s)
  | .list items s => .list (mapSpansAll f items) (f s)
  | .name n s => .name n (f s)
  | .call n ns arguments s => .call n (f ns) (mapSpansAll f arguments) (f s)
  | .binary op left right s => .binary op (left.mapSpans f) (right.mapSpans f) (f s)
  | .unary op operand s => .unary op (operand.mapSpans f) (f s)
  | .paren inner s => .paren (inner.mapSpans f) (f s)

/-- Several trees with every span changed by `f`. -/
def mapSpansAll (f : Span → Span) : List Expr → List Expr
  | [] => []
  | e :: more => e.mapSpans f :: mapSpansAll f more

end

/-- The tree without its spans. -/
def bare (e : Expr) : Expr :=
  e.mapSpans fun _ => Span.point 0

@[simp]
theorem span_mapSpans (f : Span → Span) (e : Expr) : (e.mapSpans f).span = f e.span := by
  cases e <;> rfl

mutual

/-- The nesting of a tree has nothing to do with its spans. -/
@[simp]
theorem nesting_mapSpans (f : Span → Span) : ∀ e : Expr, (e.mapSpans f).nesting = e.nesting
  | .literal _ _ => rfl
  | .list items _ => by simp only [mapSpans, nesting, nestingAll_mapSpansAll f items]
  | .name _ _ => rfl
  | .call _ _ arguments _ => by simp only [mapSpans, nesting, nestingAll_mapSpansAll f arguments]
  | .binary _ left right _ => by
    simp only [mapSpans, nesting, nesting_mapSpans f left, nesting_mapSpans f right]
  | .unary _ operand _ => by simp only [mapSpans, nesting, nesting_mapSpans f operand]
  | .paren inner _ => by simp only [mapSpans, nesting, nesting_mapSpans f inner]

@[simp]
theorem nestingAll_mapSpansAll (f : Span → Span) :
    ∀ es : List Expr, nestingAll (mapSpansAll f es) = nestingAll es
  | [] => rfl
  | e :: more => by
    simp only [mapSpansAll, nestingAll, nesting_mapSpans f e, nestingAll_mapSpansAll f more]

end

mutual

/-- The operators of a tree have nothing to do with its spans. -/
@[simp]
theorem operators_mapSpans (f : Span → Span) : ∀ e : Expr, (e.mapSpans f).operators = e.operators
  | .literal _ _ => rfl
  | .list items _ => by simp only [mapSpans, operators, operatorsAll_mapSpansAll f items]
  | .name _ _ => rfl
  | .call _ _ arguments _ => by
    simp only [mapSpans, operators, operatorsAll_mapSpansAll f arguments]
  | .binary _ left right _ => by
    simp only [mapSpans, operators, operators_mapSpans f left, operators_mapSpans f right]
  | .unary _ operand _ => by simp only [mapSpans, operators, operators_mapSpans f operand]
  | .paren inner _ => by simp only [mapSpans, operators, operators_mapSpans f inner]

@[simp]
theorem operatorsAll_mapSpansAll (f : Span → Span) :
    ∀ es : List Expr, operatorsAll (mapSpansAll f es) = operatorsAll es
  | [] => rfl
  | e :: more => by
    simp only [mapSpansAll, operatorsAll, operators_mapSpans f e, operatorsAll_mapSpansAll f more]

end

mutual

/-- The expressions inside an expression. -/
def inner : Expr → List Expr
  | .literal _ _ => []
  | .list items _ => nodesAll items
  | .name _ _ => []
  | .call _ _ arguments _ => nodesAll arguments
  | .binary _ left right _ => (left :: left.inner) ++ (right :: right.inner)
  | .unary _ operand _ => operand :: operand.inner
  | .paren e _ => e :: e.inner

/-- Several expressions and those inside them. -/
def nodesAll : List Expr → List Expr
  | [] => []
  | e :: more => (e :: e.inner) ++ nodesAll more

end

/-- An expression and those inside it. -/
def nodes (e : Expr) : List Expr :=
  e :: e.inner

mutual

/-- No expression inside another exceeds it in a measure. -/
theorem le_of_mem_inner {n : Expr} :
    ∀ e : Expr, n ∈ e.inner → n.nesting ≤ e.nesting ∧ n.operators ≤ e.operators
  | .literal _ _, h => by simp [inner] at h
  | .list items _, h => by
    have hn := le_of_mem_nodesAll items h
    exact ⟨Nat.le_succ_of_le hn.1, hn.2⟩
  | .name _ _, h => by simp [inner] at h
  | .call _ _ arguments _, h => by
    have hn := le_of_mem_nodesAll arguments h
    exact ⟨Nat.le_succ_of_le hn.1, hn.2⟩
  | .binary _ left right _, h => by
    simp only [inner, List.mem_append, List.mem_cons] at h
    simp only [nesting, operators]
    rcases h with (rfl | h) | (rfl | h)
    · omega
    · have hn := le_of_mem_inner left h
      omega
    · omega
    · have hn := le_of_mem_inner right h
      omega
  | .unary _ operand _, h => by
    simp only [nesting, operators]
    rcases List.mem_cons.1 h with rfl | h
    · omega
    · have hn := le_of_mem_inner operand h
      omega
  | .paren e _, h => by
    simp only [nesting, operators]
    rcases List.mem_cons.1 h with rfl | h
    · omega
    · have hn := le_of_mem_inner e h
      omega

theorem le_of_mem_nodesAll {n : Expr} : ∀ es : List Expr, n ∈ nodesAll es →
    n.nesting ≤ nestingAll es ∧ n.operators ≤ operatorsAll es
  | [], h => by simp [nodesAll] at h
  | e :: more, h => by
    simp only [nodesAll, List.mem_append, List.mem_cons] at h
    simp only [nestingAll, operatorsAll]
    rcases h with (rfl | h) | h
    · omega
    · have hn := le_of_mem_inner e h
      omega
    · have hn := le_of_mem_nodesAll more h
      omega

end

theorem le_of_mem_nodes {n e : Expr} (h : n ∈ e.nodes) :
    n.nesting ≤ e.nesting ∧ n.operators ≤ e.operators := by
  rcases List.mem_cons.1 h with rfl | h
  · exact ⟨Nat.le_refl _, Nat.le_refl _⟩
  · exact le_of_mem_inner e h

end Expr

namespace Statement

/-- The nesting of the expression of a statement. -/
def nesting : Statement → Nat
  | .blank _ => 0
  | .expr e => e.nesting
  | .assign _ _ e => e.nesting

/-- How many binary operators a statement has. -/
def operators : Statement → Nat
  | .blank _ => 0
  | .expr e => e.operators
  | .assign _ _ e => e.operators

/-- The statement with every span changed by `f`. -/
def mapSpans (f : Span → Span) : Statement → Statement
  | .blank s => .blank (f s)
  | .expr e => .expr (e.mapSpans f)
  | .assign n ns e => .assign n (f ns) (e.mapSpans f)

/-- The expressions that a statement consists of. -/
def nodes : Statement → List Expr
  | .blank _ => []
  | .expr e => e.nodes
  | .assign _ _ e => e.nodes

/-- The statement without its spans. -/
def bare (s : Statement) : Statement :=
  s.mapSpans fun _ => Span.point 0

@[simp]
theorem nesting_mapSpans (f : Span → Span) (s : Statement) :
    (s.mapSpans f).nesting = s.nesting := by
  cases s <;> simp [mapSpans, nesting]

@[simp]
theorem operators_mapSpans (f : Span → Span) (s : Statement) :
    (s.mapSpans f).operators = s.operators := by
  cases s <;> simp [mapSpans, operators]

@[simp]
theorem nesting_bare (s : Statement) : s.bare.nesting = s.nesting :=
  nesting_mapSpans _ s

@[simp]
theorem operators_bare (s : Statement) : s.bare.operators = s.operators :=
  operators_mapSpans _ s

end Statement

end Reckoner
