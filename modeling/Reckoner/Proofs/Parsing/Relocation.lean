import Reckoner.Proofs.CorrectPrefix

/-!
# Parsers and spans

A parser looks at the kinds of tokens and never at their spans. With the spans of all tokens changed
by a function that goes along with covering, every parser stops at the same place, and what it reads
or complains of has its spans changed by the same function.

`Moves f g x y` says that the outcome `y` is the outcome `x` after such a change, where `g` changes
what was read; `Follows f g p` says it of the parser `p` at every cursor. Each way of building a
parser keeps this, as it keeps what is read (`Reads`) and what is blamed (`Blames`). For whole rows
of tokens it comes down to one equation, `parse_mapSpans`.
-/

set_option autoImplicit false

namespace Reckoner

/-- The error with the span of the token it blames changed by `f`. -/
def ParseError.mapSpan (f : Span → Span) (e : ParseError) : ParseError :=
  { e with found := e.found.mapSpan f }

namespace Cursor

/-- The cursor with every span changed by `f`. -/
def mapSpans (f : Span → Span) (c : Cursor) : Cursor where
  rest := c.rest.map (Token.mapSpan f)
  finish := c.finish.mapSpan f
  operators := c.operators

theorem current_mapSpans (f : Span → Span) (c : Cursor) :
    (c.mapSpans f).current = c.current.mapSpan f := by
  obtain ⟨rest, finish, n⟩ := c
  cases rest with
  | nil => rfl
  | cons t rest => rfl

theorem isEmpty_mapSpans (f : Span → Span) (c : Cursor) :
    (c.mapSpans f).rest.isEmpty = c.rest.isEmpty := by
  rw [Cursor.mapSpans, List.isEmpty_map]

theorem Passes.mapSpans {c d : Cursor} {us : List Token} {cost : Nat} (f : Span → Span)
    (h : c.Passes us cost d) :
    (c.mapSpans f).Passes (us.map (Token.mapSpan f)) cost (d.mapSpans f) where
  rest := by
    simp only [Cursor.mapSpans]
    rw [h.rest, List.map_append]
  finish := congrArg (Token.mapSpan f) h.finish
  operators := h.operators

end Cursor

namespace Parser

/-- The second outcome is the first one with its spans changed by `f`; `g` changes what was read. -/
inductive Moves (f : Span → Span) {α : Type} (g : α → α) {c d : Cursor} :
    Except ParseError (Parsed α c) → Except ParseError (Parsed α d) → Prop
  | error (e : ParseError) : Moves f g (.error e) (.error (e.mapSpan f))
  | ok {r : Parsed α c} {q : Parsed α d} :
      q.value = g r.value → q.next = r.next.mapSpans f → Moves f g (.ok r) (.ok q)

/-- The parser goes along with a change of spans. -/
def Follows (f : Span → Span) {α : Type} (g : α → α) (p : Parser α) : Prop :=
  ∀ c : Cursor, Moves f g (p c) (p (c.mapSpans f))

section Follows

variable {f : Span → Span} {α : Type} {g : α → α} {p : Parser α} {c d : Cursor}

theorem Moves.eq_error {y : Except ParseError (Parsed α d)} {e : ParseError}
    (h : Moves f g (.error e : Except ParseError (Parsed α c)) y) : y = .error (e.mapSpan f) := by
  cases h
  rfl

theorem Moves.exists_ok {y : Except ParseError (Parsed α d)} {r : Parsed α c}
    (h : Moves f g (.ok r) y) :
    ∃ q, y = .ok q ∧ q.value = g r.value ∧ q.next = r.next.mapSpans f := by
  cases h with
  | ok hvalue hnext => exact ⟨_, rfl, hvalue, hnext⟩

/-- Where the parser fails, it fails with the same error before the changed spans. -/
theorem Follows.error (hp : Follows f g p) (hd : d = c.mapSpans f) {e : ParseError}
    (h : p c = .error e) : p d = .error (e.mapSpan f) := by
  subst hd
  have hmoves := hp c
  rw [h] at hmoves
  exact hmoves.eq_error

/-- Where the parser reads something, it reads the same before the changed spans. -/
theorem Follows.ok (hp : Follows f g p) (hd : d = c.mapSpans f) {r : Parsed α c}
    (h : p c = .ok r) :
    ∃ q, p d = .ok q ∧ q.value = g r.value ∧ q.next = r.next.mapSpans f := by
  subst hd
  have hmoves := hp c
  rw [h] at hmoves
  exact hmoves.exists_ok

end Follows

/-- An outcome and its copy, both made into something else in the same way. -/
theorem Moves.map {f : Span → Span} {α β : Type} {g : α → α} {g' : β → β} {c c' d d' : Cursor}
    {x : Except ParseError (Parsed α c)} {y : Except ParseError (Parsed α d)} (h : Moves f g x y)
    {u : Parsed α c → Parsed β c'} {v : Parsed α d → Parsed β d'}
    (huv : ∀ r q, q.value = g r.value → q.next = r.next.mapSpans f →
      (v q).value = g' (u r).value ∧ (v q).next = (u r).next.mapSpans f) :
    Moves f g' (x.map u) (y.map v) := by
  cases h with
  | error e => exact .error e
  | @ok r q hvalue hnext =>
    obtain ⟨hvalue', hnext'⟩ := huv r q hvalue hnext
    exact .ok hvalue' hnext'

/-- Like `Moves`, where an operator may stand or not. -/
inductive MovesRight (f : Span → Span) {c d : Cursor} :
    Except ParseError (Option (Parsed (BinaryOp × Expr) c)) →
      Except ParseError (Option (Parsed (BinaryOp × Expr) d)) → Prop
  | error (e : ParseError) : MovesRight f (.error e) (.error (e.mapSpan f))
  | none : MovesRight f (.ok none) (.ok none)
  | some {r : Parsed (BinaryOp × Expr) c} {q : Parsed (BinaryOp × Expr) d} :
      q.value = (r.value.1, r.value.2.mapSpans f) → q.next = r.next.mapSpans f →
      MovesRight f (.ok (some r)) (.ok (some q))

/-- The operand behind an operator decides what becomes of the two. -/
theorem Moves.right {f : Span → Span} {c d : Cursor} {t t' : Token} {n : Nat}
    {x : Except ParseError (Parsed Expr c)} {y : Except ParseError (Parsed Expr d)}
    (h : Moves f (Expr.mapSpans f) x y) (op : BinaryOp) :
    MovesRight f
      (x.map fun r => some ((r.map (Prod.mk op)).behind :
        Parsed (BinaryOp × Expr) ⟨t :: c.rest, c.finish, n⟩))
      (y.map fun r => some ((r.map (Prod.mk op)).behind :
        Parsed (BinaryOp × Expr) ⟨t' :: d.rest, d.finish, n⟩)) := by
  cases h with
  | error e => exact .error e
  | ok hvalue hnext =>
    refine .some ?_ hnext
    simp only [Parsed.behind, Parsed.map, hvalue]

section Operators

variable {f : Span → Span} {operator? : Token.Kind → Option BinaryOp} {operand : Parser Expr}

/-! ## Operators -/

theorem rightOperand?_moves (operator? : Token.Kind → Option BinaryOp)
    (hp : Follows f (Expr.mapSpans f) operand) {c d : Cursor} (hd : d = c.mapSpans f) :
    MovesRight f (rightOperand? operator? operand c) (rightOperand? operator? operand d) := by
  subst hd
  obtain ⟨rest, finish, n⟩ := c
  cases rest with
  | nil => exact .none
  | cons t rest =>
    change MovesRight f _ (rightOperand? operator? operand
      ⟨t.mapSpan f :: rest.map (Token.mapSpan f), finish.mapSpan f, n⟩)
    cases hop : operator? t.kind with
    | none =>
      have hop' : operator? (t.mapSpan f).kind = none := hop
      simp only [rightOperand?, hop, hop']
      exact .none
    | some op =>
      have hop' : operator? (t.mapSpan f).kind = some op := hop
      cases n with
      | zero =>
        simp only [rightOperand?, hop, hop']
        exact .error ⟨.fewerOperators, t⟩
      | succ left =>
        -- Both are decided by the operand behind the operator.
        simp only [rightOperand?, hop, hop']
        exact (hp ⟨rest, finish, left⟩).right op

variable (hf : ∀ a b : Span, f (a.merge b) = (f a).merge (f b))

include hf

/-- Two trees joined by an operator, and their spans changed. -/
theorem mapSpans_join (l : Expr) (r : BinaryOp × Expr) :
    (join l r).mapSpans f = join (l.mapSpans f) (r.1, r.2.mapSpans f) := by
  simp only [join, Expr.mapSpans, hf, Expr.span_mapSpans]

theorem chainFrom_moves (hp : Follows f (Expr.mapSpans f) operand) {c d : Cursor}
    (left : Parsed Expr c) (left' : Parsed Expr d) (hvalue : left'.value = left.value.mapSpans f)
    (hnext : left'.next = left.next.mapSpans f) :
    Moves f (Expr.mapSpans f) (chainFrom operator? operand left)
      (chainFrom operator? operand left') := by
  fun_induction chainFrom operator? operand left generalizing left' with
  | case1 left e he =>
    have hright := rightOperand?_moves operator? hp hnext
    rw [he] at hright
    rw [chainFrom.eq_def _ _ left']
    generalize rightOperand? operator? operand left'.next = y at hright ⊢
    cases hright
    exact .error e
  | case2 left hnone =>
    have hright := rightOperand?_moves operator? hp hnext
    rw [hnone] at hright
    rw [chainFrom.eq_def _ _ left']
    generalize rightOperand? operator? operand left'.next = y at hright ⊢
    cases hright
    exact .ok hvalue hnext
  | case3 left r hr hlt ih =>
    have hright := rightOperand?_moves operator? hp hnext
    rw [hr] at hright
    rw [chainFrom.eq_def _ _ left']
    generalize rightOperand? operator? operand left'.next = y at hright ⊢
    cases hright with
    | some hvalue' hnext' =>
      apply ih
      · simp only [Parsed.append, mapSpans_join hf, hvalue, hvalue']
      · exact hnext'

theorem chain_follows (hp : Follows f (Expr.mapSpans f) operand) :
    Follows f (Expr.mapSpans f) (chain operator? operand) := by
  intro c
  cases h : operand c with
  | error e =>
    simp only [chain, h, hp.error rfl h]
    exact .error e
  | ok first =>
    obtain ⟨first', h', hvalue, hnext⟩ := hp.ok rfl h
    simp only [chain, h, h']
    exact chainFrom_moves hf hp first first' hvalue hnext

theorem comparison_follows (hp : Follows f (Expr.mapSpans f) operand) :
    Follows f (Expr.mapSpans f) (comparison operand) := by
  intro c
  cases h : operand c with
  | error e =>
    simp only [comparison, h, hp.error rfl h]
    exact .error e
  | ok left =>
    obtain ⟨left', h', hvalue, hnext⟩ := hp.ok rfl h
    have hright := rightOperand?_moves comparison? hp hnext
    simp only [comparison, h, h']
    generalize rightOperand? comparison? operand left.next = x at hright ⊢
    generalize rightOperand? comparison? operand left'.next = y at hright ⊢
    cases hright with
    | error e => exact .error e
    | none => exact .ok hvalue hnext
    | some hvalue' hnext' =>
      refine .ok ?_ hnext'
      simp only [Parsed.append, mapSpans_join hf, hvalue, hvalue']

/-- Expressions go along with a change of spans if their operands do. -/
theorem expressionOf_follows (hp : Follows f (Expr.mapSpans f) operand) :
    Follows f (Expr.mapSpans f) (expressionOf operand) :=
  comparison_follows hf (chain_follows hf (chain_follows hf hp))

end Operators

/-! ## Items and brackets -/

section Items

variable {f : Span → Span} {b : Bracket} {item : Parser Expr}

theorem closing_follows (f : Span → Span) (b : Bracket) : Follows f f (closing b) := by
  rintro ⟨rest, finish, n⟩
  cases rest with
  | nil => exact .error ⟨.closing b, finish⟩
  | cons t rest =>
    change Moves f f _ (closing b
      ⟨t.mapSpan f :: rest.map (Token.mapSpan f), finish.mapSpan f, n⟩)
    by_cases ht : t.kind = .closing b
    · have ht' : (t.mapSpan f).kind = .closing b := ht
      simp only [closing, if_pos ht, if_pos ht']
      exact .ok rfl rfl
    · have ht' : (t.mapSpan f).kind ≠ .closing b := ht
      simp only [closing, if_neg ht, if_neg ht']
      exact .error ⟨.closing b, t⟩

theorem closed_follows {α : Type} {g : α → α} {content : Parser α} (hp : Follows f g content) :
    Follows f (Prod.map g f) (closed b content) := by
  intro c
  cases h : content c with
  | error e =>
    simp only [closed, h, hp.error rfl h]
    exact .error e
  | ok r =>
    obtain ⟨q, h', hvalue, hnext⟩ := hp.ok rfl h
    cases hclose : closing b r.next with
    | error e =>
      simp only [closed, h, h', hclose, (closing_follows f b).error hnext hclose]
      exact .error e
    | ok close =>
      obtain ⟨close', hclose', hvalue', hnext'⟩ := (closing_follows f b).ok hnext hclose
      simp only [closed, h, h', hclose, hclose']
      refine .ok ?_ hnext'
      simp only [Parsed.append, Prod.map, hvalue, hvalue']

/-- Where there is no comma, there is none with the spans changed. -/
theorem comma?_of_none {c d : Cursor} (hd : d = c.mapSpans f) (h : comma? c = none) :
    comma? d = none := by
  subst hd
  apply comma?_of_ne
  intro t ht
  rw [Cursor.mapSpans, List.head?_map] at ht
  obtain ⟨u, hu, rfl⟩ := Option.map_eq_some_iff.1 ht
  exact none_of_comma? h u hu

/-- A comma is passed whatever its span is. -/
theorem comma?_of_some {c d : Cursor} (hd : d = c.mapSpans f) {r : Parsed Unit c}
    (h : comma? c = some r) : ∃ q, comma? d = some q ∧ q.next = r.next.mapSpans f := by
  subst hd
  obtain ⟨t, hpass, ht⟩ := token_of_comma? h
  exact comma?_of_passes (hpass.mapSpans f) ht

/-- Items go along with a change of spans if each of them does. -/
theorem items_follows (hp : Follows f (Expr.mapSpans f) item) :
    Follows f (Prod.map (Expr.mapSpansAll f) f) (items b item) := by
  intro c
  fun_induction items b item c with
  | case1 c close hclose =>
    -- the closing bracket
    obtain ⟨close', hclose', hvalue, hnext⟩ := (closing_follows f b).ok rfl hclose
    rw [items, hclose']
    refine .ok ?_ hnext
    simp only [Parsed.map, hvalue, Prod.map, Expr.mapSpansAll]
  | case2 c unclosed hunclosed hempty =>
    -- the end where an item or the closing bracket has to stand
    rw [← Cursor.isEmpty_mapSpans f] at hempty
    rw [items, (closing_follows f b).error rfl hunclosed]
    simp only [hempty, if_true]
    exact .error unclosed
  | case3 c unclosed hunclosed hne e hitem =>
    -- a failure inside an item
    rw [← Cursor.isEmpty_mapSpans f] at hne
    rw [items, (closing_follows f b).error rfl hunclosed]
    simp only [hne, hp.error rfl hitem]
    exact .error e
  | case4 c unclosed hunclosed hne first hfirst hcomma e hclose =>
    -- neither a comma nor the closing bracket behind an item
    obtain ⟨first', hfirst', hvalue, hnext⟩ := hp.ok rfl hfirst
    rw [← Cursor.isEmpty_mapSpans f] at hne
    rw [items, (closing_follows f b).error rfl hunclosed]
    simp only [hne, hfirst', comma?_of_none hnext hcomma,
      (closing_follows f b).error hnext hclose]
    exact .error e
  | case5 c unclosed hunclosed hne first hfirst hcomma close hclose =>
    -- the closing bracket behind an item
    obtain ⟨first', hfirst', hvalue, hnext⟩ := hp.ok rfl hfirst
    obtain ⟨close', hclose', hvalue', hnext'⟩ := (closing_follows f b).ok hnext hclose
    rw [← Cursor.isEmpty_mapSpans f] at hne
    rw [items, (closing_follows f b).error rfl hunclosed]
    simp only [hne, hfirst', comma?_of_none hnext hcomma, hclose']
    refine .ok ?_ hnext'
    simp only [Parsed.append, hvalue, hvalue', Prod.map, Expr.mapSpansAll]
  | case6 c unclosed hunclosed hne first hfirst comma hcomma hlt e hmore ih =>
    -- a failure among the items behind a comma
    obtain ⟨first', hfirst', hvalue, hnext⟩ := hp.ok rfl hfirst
    obtain ⟨comma', hcomma', hnext'⟩ := comma?_of_some hnext hcomma
    rw [hmore, ← hnext'] at ih
    rw [← Cursor.isEmpty_mapSpans f] at hne
    rw [items, (closing_follows f b).error rfl hunclosed]
    simp only [hne, hfirst', hcomma', ih.eq_error]
    exact .error e
  | case7 c unclosed hunclosed hne first hfirst comma hcomma hlt more hmore ih =>
    -- further items behind a comma
    obtain ⟨first', hfirst', hvalue, hnext⟩ := hp.ok rfl hfirst
    obtain ⟨comma', hcomma', hnext'⟩ := comma?_of_some hnext hcomma
    rw [hmore, ← hnext'] at ih
    obtain ⟨more', hmore', hvalue'', hnext''⟩ := ih.exists_ok
    rw [← Cursor.isEmpty_mapSpans f] at hne
    rw [items, (closing_follows f b).error rfl hunclosed]
    simp only [hne, hfirst', hcomma', hmore']
    refine .ok ?_ hnext''
    simp only [Parsed.append, hvalue, hvalue'', Prod.map, Expr.mapSpansAll]

end Items

/-! ## Operands -/

section Operand

variable {f : Span → Span} {inner : Option (Parser Expr)}

/-- Reading a level down goes along with a change of spans if the parser of that level does. -/
theorem nested_follows {α : Type} {g : α → α} {inner : Option (Parser α)}
    (h : ∀ p ∈ inner, Follows f g p) : Follows f g (nested inner) := by
  intro c
  cases inner with
  | none =>
    simp only [nested, Cursor.current_mapSpans]
    exact .error ⟨.fewerLevels, c.current⟩
  | some p => exact h p rfl c

variable (hf : ∀ a b : Span, f (a.merge b) = (f a).merge (f b))

include hf

/-- A name goes along with a change of spans, alone as well as with arguments. -/
theorem operand_moves_name
    (h : ∀ p ∈ inner.map fun p => items .round (expressionOf p),
      Follows f (Prod.map (Expr.mapSpansAll f) f) p)
    {t : Token} {s : String} (hk : t.kind = .name s) (rest : List Token) (finish : Token)
    (n : Nat) :
    Moves f (Expr.mapSpans f) (operand inner ⟨t :: rest, finish, n⟩)
      (operand inner ⟨t.mapSpan f :: rest.map (Token.mapSpan f), finish.mapSpan f, n⟩) := by
  have hk' : (t.mapSpan f).kind = .name s := hk
  by_cases halone : ∀ o ∈ rest.head?, o.kind ≠ .opening .round
  · have halone' : ∀ o ∈ (rest.map (Token.mapSpan f)).head?, o.kind ≠ .opening .round := by
      intro o ho
      rw [List.head?_map] at ho
      obtain ⟨u, hu, rfl⟩ := Option.map_eq_some_iff.1 ho
      exact halone u hu
    obtain ⟨r, hr, hvalue, hnext⟩ := @operand_takes_name inner _ _ _ hk halone
      ⟨t :: rest, finish, n⟩ ⟨rest, finish, n⟩ ⟨rfl, rfl, (Nat.zero_add n).symm⟩ rfl
    obtain ⟨q, hq, hvalue', hnext'⟩ := @operand_takes_name inner _ _ _ hk' halone'
      ⟨t.mapSpan f :: rest.map (Token.mapSpan f), finish.mapSpan f, n⟩
      ⟨rest.map (Token.mapSpan f), finish.mapSpan f, n⟩ ⟨rfl, rfl, (Nat.zero_add n).symm⟩ rfl
    rw [hr, hq]
    apply Moves.ok
    · rw [hvalue, hvalue']
      rfl
    · rw [hnext, hnext']
      rfl
  · -- A round bracket behind the name makes it a call.
    obtain ⟨text, span, more, rfl⟩ :
        ∃ text span more, rest = ⟨.opening .round, text, span⟩ :: more := by
      cases rest with
      | nil => simp at halone
      | cons o more =>
        obtain ⟨kind, text, span⟩ := o
        obtain rfl : kind = .opening .round := by simpa using halone
        exact ⟨text, span, more, rfl⟩
    simp only [operand, hk, hk', unary?, literal?]
    refine (nested_follows h ⟨more, finish, n⟩).map ?_
    intro r q hvalue hnext
    refine ⟨?_, hnext⟩
    simp only [Parsed.behind, Parsed.map, Expr.mapSpans, hvalue, hf, Prod.map, Token.mapSpan]

/-- Operands go along with a change of spans if the operands inside them do. -/
theorem operand_follows (h : ∀ p ∈ inner, Follows f (Expr.mapSpans f) p) :
    Follows f (Expr.mapSpans f) (operand inner) := by
  have hexpression : ∀ p ∈ inner.map expressionOf, Follows f (Expr.mapSpans f) p := by
    intro p hp
    obtain ⟨q, hq, rfl⟩ := Option.map_eq_some_iff.1 hp
    exact expressionOf_follows hf (h q hq)
  have hitems : ∀ b, ∀ p ∈ inner.map fun p => items b (expressionOf p),
      Follows f (Prod.map (Expr.mapSpansAll f) f) p := by
    intro b p hp
    obtain ⟨q, hq, rfl⟩ := Option.map_eq_some_iff.1 hp
    exact items_follows (expressionOf_follows hf (h q hq))
  rintro ⟨rest, finish, n⟩
  cases rest with
  | nil => exact .error ⟨.expression, finish⟩
  | cons t rest =>
    change Moves f _ _ (operand inner
      ⟨t.mapSpan f :: rest.map (Token.mapSpan f), finish.mapSpan f, n⟩)
    have hkind : (t.mapSpan f).kind = t.kind := rfl
    cases hk : t.kind with
    | int | float | text | bool =>
      rw [hk] at hkind
      simp only [operand, hk, hkind, unary?, literal?]
      exact .ok rfl rfl
    | name s => exact operand_moves_name hf (hitems .round) hk rest finish n
    | not | minus =>
      rw [hk] at hkind
      simp only [operand, hk, hkind, unary?]
      refine (nested_follows h ⟨rest, finish, n⟩).map ?_
      intro r q hvalue hnext
      refine ⟨?_, hnext⟩
      simp only [Parsed.behind, Parsed.map, Expr.mapSpans, hvalue, hf, Expr.span_mapSpans,
        Token.mapSpan]
    | opening b =>
      rw [hk] at hkind
      cases b with
      | square =>
        simp only [operand, hk, hkind, unary?, literal?]
        refine (nested_follows (hitems .square) ⟨rest, finish, n⟩).map ?_
        intro r q hvalue hnext
        refine ⟨?_, hnext⟩
        simp only [Parsed.behind, Parsed.map, Expr.mapSpans, hvalue, hf, Prod.map, Token.mapSpan]
      | round =>
        simp only [operand, hk, hkind, unary?, literal?]
        refine (closed_follows (nested_follows hexpression) ⟨rest, finish, n⟩).map ?_
        intro r q hvalue hnext
        refine ⟨?_, hnext⟩
        simp only [Parsed.behind, Parsed.map, Expr.mapSpans, hvalue, hf, Prod.map, Token.mapSpan]
    | plus | star | slash | percent | assign | equal | notEqual | less | greater | lessEqual
    | greaterEqual | closing | comma | finish =>
      rw [hk] at hkind
      simp only [operand, hk, hkind, unary?, literal?]
      exact .error ⟨.expression, t⟩

/-- On every level operands go along with a change of spans. -/
theorem operandWithin_follows (levels : Nat) :
    Follows f (Expr.mapSpans f) (operandWithin levels) := by
  induction levels with
  | zero => exact operand_follows hf (by simp)
  | succ levels ih =>
    apply operand_follows hf
    intro p hp
    obtain rfl : operandWithin levels = p := by simpa using hp
    exact ih

theorem expression_follows : Follows f (Expr.mapSpans f) expression :=
  expressionOf_follows hf (operandWithin_follows hf maxLevels)

end Operand

/-! ## Statements -/

section Statement

variable {f : Span → Span} (hf : ∀ a b : Span, f (a.merge b) = (f a).merge (f b))

include hf

theorem soleExpression_mapSpans (c : Cursor) :
    soleExpression (c.mapSpans f) =
      ((soleExpression c).map (Expr.mapSpans f)).mapError (ParseError.mapSpan f) := by
  cases h : expression c with
  | error e =>
    simp only [soleExpression, h, (expression_follows hf).error rfl h]
    rfl
  | ok r =>
    obtain ⟨q, h', hvalue, hnext⟩ := (expression_follows hf).ok rfl h
    simp only [soleExpression, h, h', hvalue, hnext, Cursor.isEmpty_mapSpans,
      Cursor.current_mapSpans]
    split <;> rfl

theorem soleStatement_mapSpans (c : Cursor) :
    soleStatement (c.mapSpans f) =
      ((soleStatement c).map (Statement.mapSpans f)).mapError (ParseError.mapSpan f) := by
  rcases statement_cases c with ⟨hnil, -⟩ | ⟨t, a, s, d, hcd, ht, ha, -⟩ | ⟨hne, hno, -⟩
  · obtain ⟨rest, finish, n⟩ := c
    subst hnil
    rfl
  · rw [soleStatement_of_assign hcd ht ha, soleStatement_of_assign (hcd.mapSpans f) ht ha,
      soleExpression_mapSpans hf]
    cases soleExpression d <;> rfl
  · -- The first two tokens are not those of an assignment, nor are they with other spans.
    have hne' : (c.mapSpans f).rest ≠ [] := by
      rw [Cursor.mapSpans]
      exact fun h => hne (List.map_eq_nil_iff.1 h)
    have hno' : ∀ t a us s, (c.mapSpans f).rest = t :: a :: us → t.kind = .name s →
        a.kind ≠ .assign := by
      intro t a us s hrest
      obtain ⟨t', more, hmore, rfl, hmore'⟩ := List.map_eq_cons_iff.1 hrest
      obtain ⟨a', us', rfl, rfl, -⟩ := List.map_eq_cons_iff.1 hmore'
      exact hno t' a' us' s hmore
    rw [soleStatement_of_not_assign hne hno, soleStatement_of_not_assign hne' hno',
      soleExpression_mapSpans hf]
    cases soleExpression c <;> rfl

end Statement

end Parser

/-- Tokens with other spans are read as the same statement with other spans, or rejected with the
same error at the same token. -/
theorem parse_mapSpans {f : Span → Span} (hf : ∀ a b : Span, f (a.merge b) = (f a).merge (f b))
    {ts : List Token} (hts : ∀ t ∈ ts, t.kind.isFinish = false) {q : Token}
    (hq : q.kind.isFinish = true) :
    parse ((ts ++ [q]).map (Token.mapSpan f)) =
      ((parse (ts ++ [q])).map (Statement.mapSpans f)).mapError (ParseError.mapSpan f) := by
  have hts' : ∀ t ∈ ts.map (Token.mapSpan f), t.kind.isFinish = false := by
    intro t ht
    obtain ⟨u, hu, rfl⟩ := List.mem_map.1 ht
    exact hts u hu
  have hq' : (q.mapSpan f).kind.isFinish = true := hq
  rw [List.map_append, List.map_cons, List.map_nil, ← Parser.soleStatement_ofTokens,
    ← Parser.soleStatement_ofTokens, Cursor.ofTokens_append hts' hq', Cursor.ofTokens_append hts hq]
  exact Parser.soleStatement_mapSpans hf ⟨ts, q, maxOperators⟩

end Reckoner
