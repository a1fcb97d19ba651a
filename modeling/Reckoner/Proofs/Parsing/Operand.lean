import Reckoner.Proofs.Parsing.Operator

/-!
# Parsers of operands and of what stands in brackets

The parsers of closing brackets, of rows of items and of operands, each with the rows of tokens
that it takes. `operand_cases` says everything that can happen where an operand has to stand.

The main statement is `operandWithin_reads`: on every level, the parser of operands reads the
operands of the grammar that nest no deeper than the level, and nothing else. Inside an operand
the parser of the level below is used, so the induction is on the levels and no derivation is
taken apart more than one rule at a time.
-/

set_option autoImplicit false

namespace Reckoner

open Grammar

namespace Parser

/-! ## Closing brackets and commas -/

/-- What can happen where a closing bracket has to stand. -/
theorem closing_cases (b : Bracket) (c : Cursor) :
    (∃ t d q, c.Passes [t] 0 d ∧ t.kind = .closing b ∧ closing b c = .ok q ∧ q.value = t.span ∧
        q.next = d) ∨
      ((∀ t ∈ c.rest.head?, t.kind ≠ .closing b) ∧
        closing b c = .error ⟨.closing b, c.current⟩) := by
  obtain ⟨rest, finish, n⟩ := c
  cases rest with
  | nil => exact Or.inr ⟨by simp, rfl⟩
  | cons t rest =>
    by_cases ht : t.kind = .closing b
    · refine Or.inl ⟨t, ⟨rest, finish, n⟩, ⟨t.span, ⟨rest, finish, n⟩, Nat.lt_succ_self _⟩,
        ⟨rfl, rfl, (Nat.zero_add n).symm⟩, ht, ?_, rfl, rfl⟩
      simp only [closing, if_pos ht]
    · exact Or.inr ⟨by simpa using ht, by simp only [closing, if_neg ht, Cursor.current]⟩

theorem closing_takes {b : Bracket} {t : Token} (ht : t.kind = .closing b) (next : Option Token) :
    (closing b).Takes [t] t.span 0 next := by
  rintro c d hcd -
  obtain rfl := hcd.eq_of_token
  exact ⟨⟨t.span, d, Nat.lt_succ_self _⟩, by simp only [closing, if_pos ht], rfl, rfl⟩

/-- What can happen where a comma may stand. -/
theorem comma?_cases (c : Cursor) :
    (∃ t d q, c.Passes [t] 0 d ∧ t.kind = .comma ∧ comma? c = some q ∧ q.next = d) ∨
      ((∀ t ∈ c.rest.head?, t.kind ≠ .comma) ∧ comma? c = none) := by
  obtain ⟨rest, finish, n⟩ := c
  cases rest with
  | nil => exact Or.inr ⟨by simp, rfl⟩
  | cons t rest =>
    by_cases ht : t.kind = .comma
    · refine Or.inl ⟨t, ⟨rest, finish, n⟩, ⟨(), ⟨rest, finish, n⟩, Nat.lt_succ_self _⟩,
        ⟨rfl, rfl, (Nat.zero_add n).symm⟩, ht, ?_, rfl⟩
      simp only [comma?, if_pos ht]
    · exact Or.inr ⟨by simpa using ht, by simp only [comma?, if_neg ht]⟩

theorem comma?_of_passes {c d : Cursor} {t : Token} (hcd : c.Passes [t] 0 d)
    (ht : t.kind = .comma) : ∃ q, comma? c = some q ∧ q.next = d := by
  obtain rfl := hcd.eq_of_token
  exact ⟨⟨(), d, Nat.lt_succ_self _⟩, by simp only [comma?, if_pos ht], rfl⟩

theorem token_of_closing {b : Bracket} {c : Cursor} {q : Parsed Span c} (h : closing b c = .ok q) :
    ∃ t, c.Passes [t] 0 q.next ∧ t.kind = .closing b ∧ q.value = t.span := by
  rcases closing_cases b c with ⟨t, d, q', hcd, ht, hq, hvalue, rfl⟩ | ⟨-, herr⟩
  · obtain rfl : q = q' := by simpa [h] using hq
    exact ⟨t, hcd, ht, hvalue⟩
  · simp [h] at herr

theorem token_of_comma? {c : Cursor} {q : Parsed Unit c} (h : comma? c = some q) :
    ∃ t, c.Passes [t] 0 q.next ∧ t.kind = .comma := by
  rcases comma?_cases c with ⟨t, d, q', hcd, ht, hq, rfl⟩ | ⟨-, hno⟩
  · obtain rfl : q = q' := by simpa [h] using hq
    exact ⟨t, hcd, ht⟩
  · simp [h] at hno

/-! ## Items -/

section Items

variable {b : Bracket} {item : Parser Expr} {next : Option Token}

theorem items_takes_none {t : Token} (ht : t.kind = .closing b) :
    Takes (items b item) [t] ([], t.span) 0 next := by
  intro c d hcd hd
  obtain ⟨q, hq, hvalue, hnext⟩ := closing_takes ht next c d hcd hd
  refine ⟨q.map fun span => ([], span), ?_, ?_, hnext⟩
  · rw [items, hq]
  · simp only [Parsed.map, hvalue]

/-- Where no closing bracket stands, an item is read. -/
theorem items_of_head {c : Cursor} {u : Token} (hu : c.rest.head? = some u)
    (hb : u.kind ≠ .closing b) :
    items b item c = match item c with
      | .error e => .error e
      | .ok first =>
        match comma? first.next with
        | none =>
          match closing b first.next with
          | .error e => .error e
          | .ok close => .ok (first.append (fun e span => ([e], span)) close)
        | some comma =>
          match items b item comma.next with
          | .error e => .error e
          | .ok more =>
            .ok ((first.append (fun e _ => e) comma).append
              (fun e (es, span) => (e :: es, span)) more) := by
  rcases closing_cases b c with ⟨t, d, q, hcd, ht, -⟩ | ⟨-, herr⟩
  · rw [hcd.head] at hu
    cases hu
    exact absurd ht hb
  · have hne : c.rest.isEmpty = false := by
      cases hc : c.rest with
      | nil => simp [hc] at hu
      | cons _ _ => rfl
    rw [items, herr]
    simp only [hne]
    rfl

theorem items_takes_last {us : List Token} {u t : Token} {e : Expr}
    (h : item.Takes (u :: us) e e.operators (some t)) (hu : u.kind ≠ .closing b)
    (ht : t.kind = .closing b) :
    Takes (items b item) (u :: us ++ [t]) ([e], t.span) e.operators next := by
  intro c d hcd hd
  obtain ⟨m, hcm, hmd⟩ := Cursor.Passes.split (a := e.operators) (b := 0) hcd
  obtain ⟨first, hfirst, hvalue, rfl⟩ := h c m hcm hmd.head
  obtain ⟨close, hclose, hspan, hnext⟩ := closing_takes ht next _ d hmd hd
  have hcomma : comma? first.next = none := by
    rcases comma?_cases first.next with ⟨t', d', q, hd', ht', -⟩ | ⟨-, hno⟩
    · have := hmd.head.symm.trans hd'.head
      cases this
      simp [ht] at ht'
    · exact hno
  refine ⟨first.append (fun e span => ([e], span)) close, ?_, ?_, hnext⟩
  · rw [items_of_head hcm.head hu, hfirst]
    simp only [hcomma, hclose]
  · simp only [Parsed.append, hvalue, hspan]

theorem items_takes_cons {us vs : List Token} {u t : Token} {e : Expr} {es : List Expr}
    {span : Span} {cost : Nat} (h : item.Takes (u :: us) e e.operators (some t))
    (hu : u.kind ≠ .closing b) (ht : t.kind = .comma)
    (hs : Takes (items b item) vs (es, span) cost next) :
    Takes (items b item) (u :: us ++ t :: vs) (e :: es, span) (e.operators + cost) next := by
  intro c d hcd hd
  obtain ⟨m, hcm, hmd⟩ := hcd.split
  obtain ⟨first, hfirst, hvalue, rfl⟩ := h c m hcm hmd.head
  obtain ⟨k, hk, hkd⟩ := hmd.split_token
  obtain ⟨comma, hcomma, rfl⟩ := comma?_of_passes hk ht
  obtain ⟨more, hmore, hvalues, hnext⟩ := hs _ d hkd hd
  refine ⟨(first.append (fun e _ => e) comma).append (fun e (es, span) => (e :: es, span)) more,
    ?_, ?_, hnext⟩
  · rw [items_of_head hcm.head hu, hfirst]
    simp only [hcomma, hmore]
  · simp only [Parsed.append, hvalue, hvalues]

variable {levels : Nat} {R : List Token → Expr → Prop}

theorem not_continues_closing {b : Bracket} : ¬ Continues (.closing b) := by
  simp [Continues, multiplicative?, additive?, comparison?]

theorem not_continues_comma : ¬ Continues .comma := by
  simp [Continues, multiplicative?, additive?, comparison?]

/-- Derived arguments and the closing bracket behind them are read. -/
theorem items_takes (hp : item.Reads levels R Continues)
    (hhead : ∀ {us : List Token} {e : Expr}, R us e →
      ∃ u vs, us = u :: vs ∧ ∀ b, u.kind ≠ .closing b)
    {us : List Token} {es : List Expr} (h : Arguments R us es)
    (hn : Expr.nestingAll es ≤ levels) {t : Token} (ht : t.kind = .closing b) :
    Takes (items b item) (us ++ [t]) (es, t.span) (Expr.operatorsAll es) next := by
  induction h with
  | none => exact items_takes_none ht
  | @last us e h =>
    obtain ⟨u, vs, rfl, hu⟩ := hhead h
    rw [Expr.nestingAll, Nat.max_le] at hn
    refine items_takes_last (hp.complete h hn.1 ?_) (hu b) ht
    rintro _ ⟨⟩
    simpa [ht] using not_continues_closing
  | @cons us vs t' e es h ht' _ ih =>
    obtain ⟨u, ws, rfl, hu⟩ := hhead h
    rw [Expr.nestingAll, Nat.max_le] at hn
    rw [List.append_assoc]
    refine items_takes_cons (hp.complete h hn.1 ?_) (hu b) ht' (ih hn.2)
    rintro _ ⟨⟩
    simpa [ht'] using not_continues_comma

/-- What is read as items is derived arguments and a closing bracket. -/
theorem items_sound (hp : item.Reads levels R Continues) {c : Cursor}
    {r : Parsed (List Expr × Span) c} (h : items b item c = .ok r) :
    ∃ us t, c.Passes (us ++ [t]) (Expr.operatorsAll r.value.1) r.next ∧ t.kind = .closing b ∧
      r.value.2 = t.span ∧ Arguments R us r.value.1 ∧ Expr.nestingAll r.value.1 ≤ levels := by
  fun_induction items b item c with
  | case1 c close hclose =>
    -- a closing bracket at once, or behind the last comma
    cases h
    obtain ⟨t, hpass, ht, hspan⟩ := token_of_closing hclose
    exact ⟨[], t, hpass, ht, hspan, .none, Nat.zero_le levels⟩
  | case2 => simp at h
  | case3 => simp at h
  | case4 => simp at h
  | case5 c _ _ _ first hfirst _ close hclose =>
    -- an item and the closing bracket
    cases h
    obtain ⟨us, hus, hR, hn, -⟩ := hp.sound hfirst
    obtain ⟨t, hpass, ht, hspan⟩ := token_of_closing hclose
    exact ⟨us, t, hus.trans hpass, ht, hspan, .last hR, Nat.max_le.2 ⟨hn, Nat.zero_le levels⟩⟩
  | case6 => simp at h
  | case7 c _ _ _ first hfirst comma hcomma _ more hmore ih =>
    -- an item, a comma and more items
    cases h
    obtain ⟨us, hus, hR, hn, -⟩ := hp.sound hfirst
    obtain ⟨t, hpass, ht⟩ := token_of_comma? hcomma
    obtain ⟨vs, close, hvs, hclose, hspan, hRs, hns⟩ := ih hmore
    refine ⟨us ++ t :: vs, close, ?_, hclose, hspan, .cons hR ht hRs, Nat.max_le.2 ⟨hn, hns⟩⟩
    rw [List.append_assoc]
    exact hus.trans (hpass.cons hvs)

end Items

/-! ## Operands -/

section Operand

variable {p : Parser Expr} {inner : Option (Parser Expr)} {next : Option Token}

theorem unary?_eq_some_iff {k : Token.Kind} {op : UnaryOp} : unary? k = some op ↔ k = op.token := by
  cases k <;> cases op <;> simp [unary?, UnaryOp.token]

theorem literal?_eq_some_iff {k : Token.Kind} {v : Value} : literal? k = some v ↔ Literal k v := by
  constructor
  · intro h
    cases k <;> simp only [literal?, Option.some.injEq, reduceCtorEq] at h <;> subst h <;>
      constructor
  · intro h
    cases h <;> rfl

theorem closed_takes {α : Type} {b : Bracket} {content : Parser α} {us : List Token} {t : Token}
    {x : α} {cost : Nat} (h : content.Takes us x cost (some t)) (ht : t.kind = .closing b) :
    (closed b content).Takes (us ++ [t]) (x, t.span) cost next := by
  intro c d hcd hd
  obtain ⟨m, hcm, hmd⟩ := Cursor.Passes.split (a := cost) (b := 0) hcd
  obtain ⟨q, hq, hvalue, rfl⟩ := h c m hcm hmd.head
  obtain ⟨close, hclose, hspan, hnext⟩ := closing_takes ht next _ d hmd hd
  refine ⟨q.append Prod.mk close, by simp only [closed, hq, hclose], ?_, hnext⟩
  simp only [Parsed.append, hvalue, hspan]

theorem operand_takes_literal {t : Token} {v : Value} (hv : Literal t.kind v) :
    (operand inner).Takes [t] (.literal v t.span) 0 next := by
  rintro c d hcd -
  obtain rfl := hcd.eq_of_token
  have hu : unary? t.kind = none := by generalize t.kind = k at hv; cases hv <;> rfl
  have hl : literal? t.kind = some v := literal?_eq_some_iff.2 hv
  exact ⟨⟨_, d, Nat.lt_succ_self _⟩, by simp only [operand, hu, hl], rfl, rfl⟩

theorem operand_takes_name {t : Token} {s : String} (hk : t.kind = .name s)
    (hnext : ∀ o ∈ next, o.kind ≠ .opening .round) :
    (operand inner).Takes [t] (.name s t.span) 0 next := by
  rintro c ⟨rest, finish, n⟩ hcd rfl
  obtain rfl := hcd.eq_of_token
  refine ⟨⟨.name s t.span, ⟨rest, finish, n⟩, Nat.lt_succ_self _⟩, ?_, rfl, rfl⟩
  simp only [operand, hk, unary?, literal?]
  split
  · simp at hnext
  · rfl

theorem operand_takes_unary {t : Token} {us : List Token} {op : UnaryOp} {e : Expr}
    (ht : t.kind = op.token) (h : p.Takes us e e.operators next) :
    (operand (some p)).Takes (t :: us) (.unary op e (t.span.merge e.span)) e.operators next := by
  intro c d hcd hd
  obtain ⟨m, hcm, hmd⟩ := hcd.split_token
  obtain rfl := hcm.eq_of_token
  obtain ⟨r, hr, hvalue, hnext⟩ := h m d hmd hd
  have hu : unary? t.kind = some op := unary?_eq_some_iff.2 ht
  refine ⟨(r.map fun e => Expr.unary op e (t.span.merge e.span)).behind, ?_, ?_, hnext⟩
  · simp only [operand, hu, nested, hr, Except.map]
  · simp only [Parsed.behind, Parsed.map, hvalue]

theorem operand_takes_paren {t close : Token} {us : List Token} {e : Expr}
    (ht : t.kind = .opening .round) (h : (expressionOf p).Takes us e e.operators (some close))
    (hclose : close.kind = .closing .round) :
    (operand (some p)).Takes (t :: (us ++ [close])) (.paren e (t.span.merge close.span))
      e.operators next := by
  intro c d hcd hd
  obtain ⟨m, hcm, hmd⟩ := hcd.split_token
  obtain rfl := hcm.eq_of_token
  obtain ⟨r, hr, hvalue, hnext⟩ := closed_takes h hclose m d hmd hd
  refine ⟨(r.map fun x => Expr.paren x.1 (t.span.merge x.2)).behind, ?_, ?_, hnext⟩
  · simp only [operand, ht, unary?, literal?, Option.map]
    rw [show closed .round (nested (some (expressionOf p))) m = .ok r from hr]
    rfl
  · simp only [Parsed.behind, Parsed.map, hvalue]

theorem operand_takes_list {t close : Token} {us : List Token} {es : List Expr} {cost : Nat}
    (ht : t.kind = .opening .square)
    (h : Takes (items .square (expressionOf p)) (us ++ [close]) (es, close.span) cost next) :
    (operand (some p)).Takes (t :: (us ++ [close])) (.list es (t.span.merge close.span)) cost
      next := by
  intro c d hcd hd
  obtain ⟨m, hcm, hmd⟩ := hcd.split_token
  obtain rfl := hcm.eq_of_token
  obtain ⟨r, hr, hvalue, hnext⟩ := h m d hmd hd
  refine ⟨(r.map fun (es, close) => Expr.list es (t.span.merge close)).behind, ?_, ?_, hnext⟩
  · simp only [operand, ht, unary?, literal?, Option.map, nested, hr, Except.map]
  · simp only [Parsed.behind, Parsed.map, hvalue]

theorem operand_takes_call {t o close : Token} {us : List Token} {s : String} {es : List Expr}
    {cost : Nat} (hk : t.kind = .name s) (ho : o.kind = .opening .round)
    (h : Takes (items .round (expressionOf p)) (us ++ [close]) (es, close.span) cost next) :
    (operand (some p)).Takes (t :: o :: (us ++ [close]))
      (.call s t.span es (t.span.merge close.span)) cost next := by
  intro c d hcd hd
  obtain ⟨m, hcm, hmd⟩ := hcd.split_token
  obtain rfl := hcm.eq_of_token
  obtain ⟨k, hmk, hkd⟩ := hmd.split_token
  obtain rfl := hmk.eq_of_token
  obtain ⟨r, hr, hvalue, hnext⟩ := h k d hkd hd
  obtain ⟨kind, text, span⟩ := o
  subst ho
  refine ⟨((r.map fun (es, close) => Expr.call s t.span es (t.span.merge close)).behind
    : Parsed Expr ⟨_ :: k.rest, k.finish, k.operators⟩).behind, ?_, ?_, hnext⟩
  · simp only [operand, hk, unary?, literal?, Option.map, nested, hr, Except.map]
  · simp only [Parsed.behind, Parsed.map, hvalue]

/-- The outcome `y` is the outcome `x` with what was read changed by `f`. -/
def Wraps {α β : Type} {c d : Cursor} (f : α → β) (x : Except ParseError (Parsed α d))
    (y : Except ParseError (Parsed β c)) : Prop :=
  (∃ e, x = .error e ∧ y = .error e) ∨
    ∃ r q, x = .ok r ∧ y = .ok q ∧ q.value = f r.value ∧ q.next = r.next

theorem wraps_map {α β : Type} {c d : Cursor} {f : α → β} {g : Parsed α d → Parsed β c}
    (x : Except ParseError (Parsed α d))
    (hg : ∀ r, (g r).value = f r.value ∧ (g r).next = r.next) : Wraps f x (x.map g) := by
  cases x with
  | error e => exact Or.inl ⟨e, rfl, rfl⟩
  | ok r => exact Or.inr ⟨r, g r, rfl, rfl, hg r⟩

/-- No operand begins with a token of this kind. -/
def Barren (k : Token.Kind) : Prop :=
  unary? k = none ∧ literal? k = none ∧ (∀ b, k ≠ .opening b) ∧ ∀ s, k ≠ .name s

/-- What can happen where an operand has to stand. Everything but a literal and a name without
arguments is left to the parsers of the inner operands. -/
theorem operand_cases (inner : Option (Parser Expr)) (c : Cursor) :
    ((∀ t ∈ c.rest.head?, Barren t.kind) ∧ ∀ c' : Cursor, c'.rest.head? = c.rest.head? →
        operand inner c' = .error ⟨.expression, c'.current⟩) ∨
      ∃ t d, c.Passes [t] 0 d ∧
        ((∃ v q, Literal t.kind v ∧ operand inner c = .ok q ∧ q.value = .literal v t.span ∧
            q.next = d) ∨
          (∃ s q, t.kind = .name s ∧ (∀ o ∈ d.rest.head?, o.kind ≠ .opening .round) ∧
            operand inner c = .ok q ∧ q.value = .name s t.span ∧ q.next = d) ∨
          (∃ s o k, t.kind = .name s ∧ o.kind = .opening .round ∧ d.Passes [o] 0 k ∧
            Wraps (fun r => Expr.call s t.span r.1 (t.span.merge r.2))
              (nested (inner.map fun p => items .round (expressionOf p)) k)
              (operand inner c)) ∨
          (t.kind = .opening .square ∧
            Wraps (fun r => Expr.list r.1 (t.span.merge r.2))
              (nested (inner.map fun p => items .square (expressionOf p)) d)
              (operand inner c)) ∨
          (t.kind = .opening .round ∧
            Wraps (fun r => Expr.paren r.1 (t.span.merge r.2))
              (closed .round (nested (inner.map expressionOf)) d) (operand inner c)) ∨
          (∃ op : UnaryOp, t.kind = op.token ∧
            Wraps (fun e => Expr.unary op e (t.span.merge e.span)) (nested inner d)
              (operand inner c))) := by
  obtain ⟨rest, finish, n⟩ := c
  cases rest with
  | nil =>
    refine Or.inl ⟨by simp, ?_⟩
    rintro ⟨rest', finish', n'⟩ h
    obtain rfl : rest' = [] := by simpa using h
    rfl
  | cons t rest =>
    have hpass : Cursor.Passes ⟨t :: rest, finish, n⟩ [t] 0 ⟨rest, finish, n⟩ :=
      ⟨rfl, rfl, (Nat.zero_add n).symm⟩
    cases hk : t.kind with
    | int | float | text | bool =>
      obtain ⟨v, hv⟩ : ∃ v, Literal t.kind v := ⟨_, by rw [hk]; constructor⟩
      obtain ⟨q, hq, hvalue, hnext⟩ := operand_takes_literal hv _ _ hpass rfl
      exact Or.inr ⟨t, _, hpass, Or.inl ⟨v, q, hv, hq, hvalue, hnext⟩⟩
    | name s =>
      refine Or.inr ⟨t, _, hpass, Or.inr ?_⟩
      -- A round bracket behind the name makes it a call.
      by_cases ho : ∀ o ∈ rest.head?, o.kind ≠ .opening .round
      · obtain ⟨q, hq, hvalue, hnext⟩ := operand_takes_name hk ho _ _ hpass rfl
        exact Or.inl ⟨s, q, hk, ho, hq, hvalue, hnext⟩
      · obtain ⟨text, span, more, rfl⟩ :
            ∃ text span more, rest = ⟨.opening .round, text, span⟩ :: more := by
          cases rest with
          | nil => simp at ho
          | cons o more =>
            obtain ⟨kind, text, span⟩ := o
            obtain rfl : kind = .opening .round := by simpa using ho
            exact ⟨text, span, more, rfl⟩
        refine Or.inr
          (Or.inl ⟨s, ⟨.opening .round, text, span⟩, ⟨more, finish, n⟩, hk, rfl, ?_, ?_⟩)
        · exact ⟨rfl, rfl, (Nat.zero_add n).symm⟩
        · simp only [operand, hk, unary?, literal?]
          exact wraps_map _ fun _ => ⟨rfl, rfl⟩
    | not =>
      refine Or.inr ⟨t, _, hpass, Or.inr (Or.inr (Or.inr (Or.inr (Or.inr ⟨.not, hk, ?_⟩))))⟩
      simp only [operand, hk, unary?]
      exact wraps_map _ fun _ => ⟨rfl, rfl⟩
    | minus =>
      refine Or.inr ⟨t, _, hpass, Or.inr (Or.inr (Or.inr (Or.inr (Or.inr ⟨.neg, hk, ?_⟩))))⟩
      simp only [operand, hk, unary?]
      exact wraps_map _ fun _ => ⟨rfl, rfl⟩
    | opening b =>
      refine Or.inr ⟨t, _, hpass, Or.inr (Or.inr (Or.inr ?_))⟩
      cases b with
      | square =>
        refine Or.inl ⟨hk, ?_⟩
        simp only [operand, hk, unary?, literal?]
        exact wraps_map _ fun _ => ⟨rfl, rfl⟩
      | round =>
        refine Or.inr (Or.inl ⟨hk, ?_⟩)
        simp only [operand, hk, unary?, literal?]
        exact wraps_map _ fun _ => ⟨rfl, rfl⟩
    | plus | star | slash | percent | assign | equal | notEqual | less | greater | lessEqual
    | greaterEqual | closing | comma | finish =>
      -- No operand begins with such a token, whatever is behind it.
      refine Or.inl ⟨by simp [hk, Barren, unary?, literal?], ?_⟩
      rintro ⟨rest', finish', n'⟩ h
      obtain ⟨more, rfl⟩ : ∃ more, rest' = t :: more := by
        simpa [List.head?_eq_some_iff] using h
      simp only [operand, hk, unary?, literal?, Cursor.current]

theorem Wraps.of_error {α β : Type} {c d : Cursor} {f : α → β} {y : Except ParseError (Parsed β c)}
    {e : ParseError} (h : Wraps f (.error e : Except ParseError (Parsed α d)) y) :
    y = .error e := by
  rcases h with ⟨e', he', hy⟩ | ⟨r, q, hr, -⟩
  · cases he'
    exact hy
  · cases hr

theorem Wraps.of_ok {α β : Type} {c d : Cursor} {f : α → β} {y : Except ParseError (Parsed β c)}
    {r : Parsed α d} (h : Wraps f (.ok r) y) :
    ∃ q, y = .ok q ∧ q.value = f r.value ∧ q.next = r.next := by
  rcases h with ⟨e, he, -⟩ | ⟨r', q, hr, hq, hvalue, hnext⟩
  · cases he
  · cases hr
    exact ⟨q, hq, hvalue, hnext⟩

theorem ok_of_wraps {α β : Type} {c d : Cursor} {f : α → β} {x : Except ParseError (Parsed α d)}
    {y : Except ParseError (Parsed β c)} {q : Parsed β c} (h : Wraps f x y) (hq : y = .ok q) :
    ∃ r, x = .ok r ∧ q.value = f r.value ∧ q.next = r.next := by
  subst hq
  rcases h with ⟨e, -, he⟩ | ⟨r, q', hr, hq', hvalue, hnext⟩
  · simp at he
  · cases hq'
    exact ⟨r, hr, hvalue, hnext⟩

theorem ok_of_closed {α : Type} {b : Bracket} {content : Parser α} {c : Cursor}
    {r : Parsed (α × Span) c} (h : closed b content c = .ok r) :
    ∃ q t, content c = .ok q ∧ q.next.Passes [t] 0 r.next ∧ t.kind = .closing b ∧
      r.value = (q.value, t.span) := by
  unfold closed at h
  split at h
  · simp at h
  · next q hq =>
    split at h
    · simp at h
    · next close hclose =>
      cases h
      obtain ⟨t, hpass, ht, hspan⟩ := token_of_closing hclose
      exact ⟨q, t, hq, hpass, ht, by simp only [Parsed.append, hspan]⟩

/-- The parser of the operands inside an operand with so many levels: there is none on the last
level, and on the others it reads operands with one level less. -/
inductive Inside : Option (Parser Expr) → Nat → Prop
  | none : Inside none 0
  | some {p : Parser Expr} {levels : Nat} :
      p.Reads levels Operand (· = .opening .round) → Inside (some p) (levels + 1)

/-- Where the tree goes a level down, there is a parser of that level. -/
theorem Inside.exists_of_succ_le {levels n : Nat} (h : Inside inner levels) (hn : n + 1 ≤ levels) :
    ∃ p l, inner = Option.some p ∧ p.Reads l Operand (· = .opening .round) ∧ n ≤ l := by
  cases h with
  | none => exact absurd hn (Nat.not_succ_le_zero n)
  | @some p l hp => exact ⟨p, l, rfl, hp, Nat.le_of_succ_le_succ hn⟩

/-- What was read a level down was read by the parser of that level. -/
theorem Inside.exists_of_nested {levels : Nat} (h : Inside inner levels) {α : Type}
    {f : Parser Expr → Parser α} {c : Cursor} {r : Parsed α c}
    (hr : nested (inner.map f) c = .ok r) :
    ∃ p l, inner = Option.some p ∧ levels = l + 1 ∧ p.Reads l Operand (· = .opening .round) ∧
      f p c = .ok r := by
  cases h with
  | none => simp [nested] at hr
  | @some p l hp => exact ⟨p, l, rfl, rfl, hp, hr⟩

/-- Operands are read if the operands inside them are. -/
theorem operand_reads {levels : Nat} (hinner : Inside inner levels) :
    (operand inner).Reads levels Operand (· = .opening .round) where
  complete := by
    intro us e next h hn hnext
    cases h with
    | literal hv => exact operand_takes_literal hv
    | name hk => exact operand_takes_name hk hnext
    | call hk ho h hc =>
      obtain ⟨p, l, rfl, hp, hl⟩ := hinner.exists_of_succ_le hn
      exact operand_takes_call hk ho (items_takes (expressionOf_reads hp) Expression.head h hl hc)
    | list ho h hc =>
      obtain ⟨p, l, rfl, hp, hl⟩ := hinner.exists_of_succ_le hn
      exact operand_takes_list ho (items_takes (expressionOf_reads hp) Expression.head h hl hc)
    | paren ho h hc =>
      obtain ⟨p, l, rfl, hp, hl⟩ := hinner.exists_of_succ_le hn
      refine operand_takes_paren ho ((expressionOf_reads hp).complete h hl ?_) hc
      rintro _ ⟨⟩
      simpa [hc] using not_continues_closing
    | unary ht h =>
      obtain ⟨p, l, rfl, hp, hl⟩ := hinner.exists_of_succ_le hn
      exact operand_takes_unary ht (hp.complete h hl hnext)
  sound := by
    intro c r h
    rcases operand_cases inner c with ⟨-, herr⟩ | ⟨t, d, hcd, hcases⟩
    · simp [herr c rfl] at h
    rcases hcases with ⟨v, q, hv, hq, hvalue, rfl⟩ | ⟨s, q, hk, ho, hq, hvalue, rfl⟩ |
      ⟨s, o, k, hk, ho, hdk, hw⟩ | ⟨ht, hw⟩ | ⟨ht, hw⟩ | ⟨op, ht, hw⟩
    · -- a literal
      obtain rfl : q = r := by simpa [h] using hq.symm
      rw [hvalue]
      exact ⟨[t], hcd, .literal hv, Nat.zero_le levels, operand_takes_literal hv⟩
    · -- a name with no bracket behind it
      obtain rfl : q = r := by simpa [h] using hq.symm
      rw [hvalue]
      exact ⟨[t], hcd, .name hk, Nat.zero_le levels, operand_takes_name hk ho⟩
    · -- a call
      obtain ⟨x, hx, hvalue, hnext⟩ := ok_of_wraps hw h
      obtain ⟨p, l, rfl, rfl, hreads, hp⟩ := hinner.exists_of_nested hx
      obtain ⟨us, close, hus, hclose, hspan, hR, hn⟩ := items_sound (expressionOf_reads hreads) hp
      rw [hvalue, hnext, hspan]
      refine ⟨t :: o :: (us ++ [close]), ?_, .call hk ho hR hclose,
        Nat.succ_le_succ hn, ?_⟩
      · exact hcd.cons (hdk.cons hus)
      · exact operand_takes_call hk ho
          (items_takes (expressionOf_reads hreads) Expression.head hR hn hclose)
    · -- a list
      obtain ⟨x, hx, hvalue, hnext⟩ := ok_of_wraps hw h
      obtain ⟨p, l, rfl, rfl, hreads, hp⟩ := hinner.exists_of_nested hx
      obtain ⟨us, close, hus, hclose, hspan, hR, hn⟩ := items_sound (expressionOf_reads hreads) hp
      rw [hvalue, hnext, hspan]
      refine ⟨t :: (us ++ [close]), ?_, .list ht hR hclose, Nat.succ_le_succ hn, ?_⟩
      · exact hcd.cons hus
      · exact operand_takes_list ht
          (items_takes (expressionOf_reads hreads) Expression.head hR hn hclose)
    · -- an expression in brackets
      obtain ⟨x, hx, hvalue, hnext⟩ := ok_of_wraps hw h
      obtain ⟨y, close, hy, hpass, hclose, hpair⟩ := ok_of_closed hx
      obtain ⟨p, l, rfl, rfl, hreads, hp⟩ := hinner.exists_of_nested hy
      obtain ⟨us, hus, hR, hn, htakes⟩ := (expressionOf_reads hreads).sound hp
      rw [hvalue, hnext, hpair]
      refine ⟨t :: (us ++ [close]), ?_, .paren ht hR hclose, Nat.succ_le_succ hn, ?_⟩
      · exact hcd.cons (hus.trans hpass)
      · rw [hpass.head] at htakes
        exact operand_takes_paren ht htakes hclose
    · -- a sign before an operand of the next level
      obtain ⟨x, hx, hvalue, hnext⟩ := ok_of_wraps hw h
      rw [← Option.map_id' (x := inner)] at hx
      obtain ⟨p, l, rfl, rfl, hreads, hp⟩ := hinner.exists_of_nested hx
      obtain ⟨us, hus, hR, hn, htakes⟩ := hreads.sound hp
      rw [hvalue, hnext]
      exact ⟨t :: us, hcd.cons hus, .unary ht hR, Nat.succ_le_succ hn,
        operand_takes_unary ht htakes⟩

/-- On every level the operands of the grammar that nest no deeper are read, and nothing else. -/
theorem operandWithin_reads (levels : Nat) :
    (operandWithin levels).Reads levels Operand (· = .opening .round) := by
  induction levels with
  | zero => exact operand_reads .none
  | succ levels ih => exact operand_reads (.some ih)

end Operand

end Parser

end Reckoner
