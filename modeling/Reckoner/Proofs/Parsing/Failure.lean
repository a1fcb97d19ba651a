import Reckoner.Proofs.Parsing.Operand

/-!
# Where parsers fail

A parser that fails blames one token. `Fails p c e V` says of a failure `e` at the cursor `c` that
the blamed token stands behind some tokens `us`; that `p` fails with the same `e` wherever `us` and
the blamed token stand, whatever follows them; and that `us` has the property `V`, unless one of
the two limits was the reason.

The property is always that the tokens `us` can be completed (`Completable`). No completion needs a
binary operator or a level that was not paid for before the blamed token: a literal where an
expression is missing, and closing brackets. So a completion keeps to both limits, and each way of
building a parser hands the completions of its parts on to the whole.
-/

set_option autoImplicit false

namespace Reckoner

open Grammar

/-- Two cursors before the same token with the same number of operators left. -/
structure Cursor.Alike (c d : Cursor) : Prop where
  operators : c.operators = d.operators
  head : c.rest.head? = d.rest.head?
  current : c.current = d.current

theorem Cursor.current_of_head {c : Cursor} {t : Token} (h : c.rest.head? = some t) :
    c.current = t := by
  obtain ⟨rest, finish, n⟩ := c
  cases rest with
  | nil => simp at h
  | cons u rest => simpa [Cursor.current] using h

/-- Cursors before the same tokens and then the same next token have the same next token. -/
theorem Cursor.Passes.head_eq {c d c' d' : Cursor} {us : List Token} {a b : Nat}
    (h : c.Passes us a d) (h' : c'.Passes us b d') (hd : d'.rest.head? = d.rest.head?) :
    c'.rest.head? = c.rest.head? := by
  rw [h.rest, h'.rest, List.head?_append, List.head?_append, hd]

namespace Parser

/-- The failure `e` at `c` blames a token behind tokens with the property `V`, and is the same
wherever these tokens and the blamed one stand. -/
def Fails {α : Cursor → Type} (p : (c : Cursor) → Except ParseError (α c)) (c : Cursor)
    (e : ParseError) (V : List Token → Prop) : Prop :=
  ∃ us cost d, c.Passes us cost d ∧ d.current = e.found ∧
    (∀ c' d' : Cursor, c'.Passes us cost d' → d'.Alike d → p c' = .error e) ∧
    (e.code ≠ 204 → V us)

section Fails

variable {α β : Cursor → Type} {p : (c : Cursor) → Except ParseError (α c)}
  {p' : (c : Cursor) → Except ParseError (β c)} {c k : Cursor} {e : ParseError}
  {V V' : List Token → Prop}

/-- A failure at the first token. -/
theorem Fails.here (hfound : c.current = e.found)
    (hp : ∀ d : Cursor, d.Alike c → p d = .error e) (hV : e.code ≠ 204 → V []) :
    Fails p c e V := by
  refine ⟨[], 0, c, .refl c, hfound, ?_, hV⟩
  intro c' d' hpass halike
  obtain rfl := hpass.eq_of_nil
  exact hp c' halike

/-- A failure of a part, behind tokens that were passed before, is a failure of the whole. -/
theorem Fails.after {us : List Token} {a : Nat} (hck : c.Passes us a k) (h : Fails p k e V)
    (hp : ∀ c' k' : Cursor, c'.Passes us a k' → k'.rest.head? = k.rest.head? →
      p k' = .error e → p' c' = .error e)
    (hV : ∀ vs, V vs → V' (us ++ vs)) : Fails p' c e V' := by
  obtain ⟨vs, cost, d, hkd, hfound, hreject, hviable⟩ := h
  refine ⟨us ++ vs, a + cost, d, hck.trans hkd, hfound, ?_, fun hcode => hV vs (hviable hcode)⟩
  intro c' d' hpass halike
  obtain ⟨k', hck', hkd'⟩ := hpass.split
  exact hp c' k' hck' (hkd.head_eq hkd' halike.head) (hreject k' d' hkd' halike)

/-- A failure of the first part is a failure of the whole. -/
theorem Fails.first (h : Fails p c e V)
    (hp : ∀ c' : Cursor, c'.rest.head? = c.rest.head? → p c' = .error e → p' c' = .error e)
    (hV : ∀ vs, V vs → V' vs) : Fails p' c e V' := by
  refine Fails.after (.refl c) h ?_ hV
  intro c' k' hpass hhead herr
  obtain rfl := hpass.eq_of_nil
  exact hp c' hhead herr

end Fails

/-- More tokens, none of them an end, make `us` a row with the property `S`. -/
def Completable (S : List Token → Prop) (us : List Token) : Prop :=
  ∃ vs, (∀ t ∈ vs, t.kind.isFinish = false) ∧ S (us ++ vs)

theorem Completable.extend {S S' : List Token → Prop} {us : List Token} (us' vs' : List Token)
    (hvs' : ∀ t ∈ vs', t.kind.isFinish = false) (h : ∀ ws, S ws → S' (us' ++ (ws ++ vs')))
    (hS : Completable S us) : Completable S' (us' ++ us) := by
  obtain ⟨vs, hvs, hS⟩ := hS
  refine ⟨vs ++ vs', ?_, ?_⟩
  · intro t ht
    rcases List.mem_append.1 ht with ht | ht
    · exact hvs t ht
    · exact hvs' t ht
  · have := h _ hS
    simpa [List.append_assoc] using this

/-- The row of tokens derives a tree within the limits. -/
def Fits (R : List Token → Expr → Prop) (levels operators : Nat) (us : List Token) : Prop :=
  ∃ e, R us e ∧ e.nesting ≤ levels ∧ e.operators ≤ operators

/-- Every failure of the parser blames one token, behind tokens that can be completed. -/
def Blames (p : Parser Expr) (levels : Nat) (R : List Token → Expr → Prop) : Prop :=
  ∀ {c : Cursor} {e : ParseError}, p c = .error e →
    Fails p c e (Completable (Fits R levels c.operators))

/-! ## Operators -/

section Operators

variable {operator? : Token.Kind → Option BinaryOp} {operand : Parser Expr} {levels : Nat}
  {R : List Token → Expr → Prop} {blocked : Token.Kind → Prop} {layer : Layer}

theorem rightOperand?_of_error {c d : Cursor} {t : Token} {op : BinaryOp} {e : ParseError}
    (hcd : c.Passes [t] 1 d) (ht : operator? t.kind = some op) (h : operand d = .error e) :
    rightOperand? operator? operand c = .error e := by
  obtain ⟨rest, finish, n⟩ := c
  obtain ⟨hrest, hfinish, hn⟩ := hcd
  simp only [List.cons_append, List.nil_append] at hrest hfinish hn
  subst hrest hfinish hn
  rw [Nat.add_comm]
  simp only [rightOperand?, ht, h, Except.map]

theorem rightOperand?_of_exhausted {c : Cursor} {t : Token} {op : BinaryOp}
    (hc : c.rest.head? = some t) (ht : operator? t.kind = some op) (hn : c.operators = 0) :
    rightOperand? operator? operand c = .error ⟨.fewerOperators, t⟩ := by
  obtain ⟨rest, finish, n⟩ := c
  simp only at hc hn
  obtain ⟨more, rfl⟩ := List.head?_eq_some_iff.1 hc
  subst hn
  simp only [rightOperand?, ht]

theorem error_of_rightOperand? {c : Cursor} {e : ParseError}
    (h : rightOperand? operator? operand c = .error e) :
    ∃ t op, c.rest.head? = some t ∧ operator? t.kind = some op ∧
      ((c.operators = 0 ∧ e = ⟨.fewerOperators, t⟩) ∨
        ∃ d, c.Passes [t] 1 d ∧ operand d = .error e) := by
  rcases rightOperand?_cases operator? operand c with ⟨-, h'⟩ | ⟨t, op, ht, hop, h'⟩
  · simp [h] at h'
  · refine ⟨t, op, ht, hop, ?_⟩
    rcases h' with ⟨hn, h'⟩ | ⟨d, hd, ⟨e', he', h'⟩ | ⟨r, q, -, h', -⟩⟩
    · exact Or.inl ⟨hn, by simpa [h] using h'⟩
    · obtain rfl : e = e' := by simpa [h] using h'
      exact Or.inr ⟨d, hd, he'⟩
    · simp [h] at h'

/-- A completion of the right operand completes the two operands joined. -/
theorem completable_join {S : List Token → Expr → Prop} {c k : Cursor} {us vs : List Token}
    {t : Token} {op : BinaryOp} {l : Expr} (hck : c.Passes (us ++ [t]) (l.operators + 1) k)
    (hn : l.nesting ≤ levels) (hS : ∀ {ws x}, R ws x → S (us ++ t :: ws) (join l (op, x)))
    (h : Completable (Fits R levels k.operators) vs) :
    Completable (Fits S levels c.operators) (us ++ [t] ++ vs) := by
  refine Completable.extend (us ++ [t]) [] (by simp) ?_ h
  rintro ws ⟨x, hx, hxn, hxo⟩
  refine ⟨join l (op, x), by simpa using hS hx, Nat.max_le.2 ⟨hn, hxn⟩, ?_⟩
  have hc := hck.operators
  simp only [join, Expr.operators]
  omega

/-- A failure where an operator may follow a left operand is a failure of a parser that has come
there: either no operator is left to pay for the one that stands there, or what stands behind it is
no operand. -/
theorem Fails.right {S : List Token → Expr → Prop} {p : Parser Expr} {c d : Cursor}
    {us : List Token} {l : Expr} {e : ParseError} (hb : operand.Blames levels R)
    (hcd : c.Passes us l.operators d) (hn : l.nesting ≤ levels)
    (hS : ∀ {t op ws x}, operator? t.kind = some op → R ws x →
      S (us ++ t :: ws) (join l (op, x)))
    (h : rightOperand? operator? operand d = .error e)
    (hp : ∀ c' d' : Cursor, c'.Passes us l.operators d' → d'.rest.head? = d.rest.head? →
      rightOperand? operator? operand d' = .error e → p c' = .error e) :
    Fails p c e (Completable (Fits S levels c.operators)) := by
  obtain ⟨t, op, hhead, ht, ⟨hzero, rfl⟩ | ⟨k, hdk, herr⟩⟩ := error_of_rightOperand? h
  · refine ⟨us, _, d, hcd, Cursor.current_of_head hhead, ?_, fun hcode => absurd rfl hcode⟩
    intro c' d' hpass halike
    exact hp c' d' hpass halike.head (rightOperand?_of_exhausted (halike.head.trans hhead) ht
      (halike.operators.trans hzero))
  · refine Fails.after (hcd.trans hdk) (hb herr) ?_ fun vs =>
      completable_join (hcd.trans hdk) hn (hS ht)
    intro c' k' hpass _ herr'
    obtain ⟨d', hcd', hdk'⟩ := hpass.split
    exact hp c' d' hcd' (hdk'.head.trans hhead.symm) (rightOperand?_of_error hdk' ht herr')

/-- A failure of the loop is a failure of the chain, which comes to where the loop is. -/
theorem chainFrom_blames (hp : operand.Reads levels R blocked) (hb : operand.Blames levels R)
    (hop : ∀ {k : Token.Kind} {op : BinaryOp},
      operator? k = some op ↔ op.layer = layer ∧ k = op.token)
    {c : Cursor} {left : Parsed Expr c} {e : ParseError}
    (h : chainFrom operator? operand left = .error e) {us : List Token}
    (hloop : Looping operator? operand levels layer R us left) :
    Fails (chain operator? operand) c e
      (Completable (Fits (Chain layer R) levels c.operators)) := by
  fun_induction chainFrom operator? operand left generalizing us with
  | case1 left e' he =>
    obtain rfl : e' = e := by simpa using h
    obtain ⟨hus, hR, hn, hreach⟩ := hloop
    refine Fails.right hb hus hn (fun ht hx => ?_) he ?_
    · exact .next hR (hop.1 ht).1 (hop.1 ht).2 hx
    · intro c' d' hpass hhead herr
      obtain ⟨left', -, rfl, heq⟩ := hreach c' d' hpass hhead
      rw [heq, chainFrom, herr]
  | case2 left hnone => simp at h
  | case3 left q hq hlt ih =>
    obtain ⟨vs, hloop'⟩ := hloop.next hp hop hq
    exact ih h hloop'

theorem chain_blames (hp : operand.Reads levels R blocked) (hb : operand.Blames levels R)
    (hop : ∀ {k : Token.Kind} {op : BinaryOp},
      operator? k = some op ↔ op.layer = layer ∧ k = op.token) :
    (chain operator? operand).Blames levels (Chain layer R) := by
  intro c e h
  cases hfirst : operand c with
  | error e' =>
    obtain rfl : e' = e := by simpa [chain, hfirst] using h
    refine Fails.first (hb hfirst) (fun c' _ herr => by simp only [chain, herr]) ?_
    rintro us ⟨vs, hvs, x, hx, hn, ho⟩
    exact ⟨vs, hvs, x, .first hx, hn, ho⟩
  | ok first =>
    obtain ⟨us, hloop⟩ := Looping.first hp hfirst
    simp only [chain, hfirst] at h
    exact chainFrom_blames hp hb hop h hloop

theorem comparison_blames (hp : operand.Reads levels R blocked) (hb : operand.Blames levels R) :
    (comparison operand).Blames levels (Comparison R) := by
  intro c e h
  cases hleft : operand c with
  | error e' =>
    obtain rfl : e' = e := by simpa [comparison, hleft] using h
    refine Fails.first (hb hleft) (fun c' _ herr => by simp only [comparison, herr]) ?_
    rintro us ⟨vs, hvs, x, hx, hn, ho⟩
    exact ⟨vs, hvs, x, .one hx, hn, ho⟩
  | ok left =>
    obtain ⟨us, hus, hR, hn, htakes⟩ := hp.sound hleft
    simp only [comparison, hleft] at h
    split at h
    · next e' he =>
      obtain rfl : e' = e := by simpa using h
      refine Fails.right hb hus hn (fun ht hx => ?_) he ?_
      · obtain ⟨hlayer, htoken⟩ := comparison?_eq_some_iff.1 ht
        exact .two hR hlayer htoken hx
      · intro c' d' hpass hhead herr
        obtain ⟨left', hleft', -, rfl⟩ := htakes c' d' hpass hhead
        simp only [comparison, hleft', herr]
    · simp at h
    · simp at h

/-- Failures of expressions blame one token if those of their operands do. -/
theorem expressionOf_blames (hp : operand.Reads levels R (· = .opening .round))
    (hb : operand.Blames levels R) : (expressionOf operand).Blames levels (Expression R) :=
  comparison_blames (sums_reads hp)
    (chain_blames (products_reads hp) (chain_blames hp hb multiplicative?_eq_some_iff)
      additive?_eq_some_iff)

end Operators

/-! ## Items and brackets -/

/-- The row of tokens derives arguments within the limits. -/
def FitsAll (R : List Token → Expr → Prop) (levels operators : Nat) (us : List Token) : Prop :=
  ∃ es, Arguments R us es ∧ Expr.nestingAll es ≤ levels ∧ Expr.operatorsAll es ≤ operators

/-- The row of tokens ends with a closing bracket, before which it has the property `S`. -/
def Enclosed (b : Bracket) (S : List Token → Prop) (ws : List Token) : Prop :=
  ∃ us t, ws = us ++ [t] ∧ t.kind = .closing b ∧ S us

/-- A closing bracket completes what has to stand before it. -/
theorem Completable.enclosed {b : Bracket} {S : List Token → Prop} {us : List Token}
    (h : Completable S us) : Completable (Enclosed b S) us := by
  refine Completable.extend [] [⟨.closing b, "", ⟨0, 0⟩⟩] (by simp [Token.Kind.isFinish]) ?_ h
  exact fun ws hws => ⟨ws, _, rfl, rfl, hws⟩

theorem Completable.of_complete {S : List Token → Prop} {us : List Token} (h : S us) :
    Completable S us :=
  ⟨[], by simp, by simpa using h⟩

theorem Completable.mono {S S' : List Token → Prop} {us : List Token} (hS : ∀ ws, S ws → S' ws)
    (h : Completable S us) : Completable S' us := by
  obtain ⟨vs, hvs, hws⟩ := h
  exact ⟨vs, hvs, hS _ hws⟩

section Items

variable {b : Bracket} {item : Parser Expr} {levels : Nat} {R : List Token → Expr → Prop}
  {blocked : Token.Kind → Prop}

theorem closing_of_ne {c : Cursor} (h : ∀ t ∈ c.rest.head?, t.kind ≠ .closing b) :
    closing b c = .error ⟨.closing b, c.current⟩ := by
  rcases closing_cases b c with ⟨t, d, q, hcd, ht, -⟩ | ⟨-, herr⟩
  · exact absurd ht (h t hcd.head)
  · exact herr

theorem error_of_closing {c : Cursor} {e : ParseError} (h : closing b c = .error e) :
    (∀ t ∈ c.rest.head?, t.kind ≠ .closing b) ∧ e = ⟨.closing b, c.current⟩ := by
  rcases closing_cases b c with ⟨t, d, q, -, -, hq, -⟩ | ⟨hne, herr⟩
  · simp [h] at hq
  · exact ⟨hne, by simpa [h] using herr⟩

theorem comma?_of_ne {c : Cursor} (h : ∀ t ∈ c.rest.head?, t.kind ≠ .comma) :
    comma? c = none := by
  rcases comma?_cases c with ⟨t, d, q, hcd, ht, -⟩ | ⟨-, hno⟩
  · exact absurd ht (h t hcd.head)
  · exact hno

theorem none_of_comma? {c : Cursor} (h : comma? c = none) :
    ∀ t ∈ c.rest.head?, t.kind ≠ .comma := by
  rcases comma?_cases c with ⟨t, d, q, -, -, hq, -⟩ | ⟨hne, -⟩
  · simp [h] at hq
  · exact hne

theorem items_of_nil {c : Cursor} (h : c.rest.head? = none) :
    items b item c = .error ⟨.closing b, c.current⟩ := by
  have hempty : c.rest.isEmpty = true := by simpa using h
  rw [items, closing_of_ne (by simp [h])]
  simp only [hempty, if_true]

/-- Failures among items blame one token if those of the items do. -/
theorem items_blames (hp : item.Reads levels R blocked) (hb : item.Blames levels R)
    (hhead : ∀ {us : List Token} {e : Expr}, R us e →
      ∃ u vs, us = u :: vs ∧ ∀ b, u.kind ≠ .closing b)
    {c : Cursor} {e : ParseError} (h : items b item c = .error e) :
    Fails (items b item) c e (Completable (Enclosed b (FitsAll R levels c.operators))) := by
  fun_induction items b item c with
  | case1 c close hclose => simp at h
  | case2 c unclosed hunclosed hempty =>
    -- the end where an item or the closing bracket has to stand
    obtain rfl : unclosed = e := by simpa using h
    obtain ⟨-, rfl⟩ := error_of_closing hunclosed
    have hnil : c.rest.head? = none := by simpa using hempty
    refine Fails.here rfl ?_ fun _ => ?_
    · intro d halike
      rw [items_of_nil (halike.head.trans hnil), halike.current]
    · exact Completable.enclosed (.of_complete ⟨[], .none, Nat.zero_le _, Nat.zero_le _⟩)
  | case3 c unclosed hunclosed hne e' hitem =>
    -- a failure inside an item
    obtain rfl : e' = e := by simpa using h
    obtain ⟨hno, -⟩ := error_of_closing hunclosed
    obtain ⟨u, hu⟩ : ∃ u, c.rest.head? = some u := by
      cases hc : c.rest with
      | nil => simp [hc] at hne
      | cons u rest => exact ⟨u, rfl⟩
    refine Fails.first (hb hitem) ?_ fun us hus => Completable.enclosed (hus.mono ?_)
    · intro c' hc' herr
      rw [items_of_head (hc'.trans hu) (hno u hu), herr]
    · rintro ws ⟨x, hx, hn, ho⟩
      exact ⟨[x], .last hx, Nat.max_le.2 ⟨hn, Nat.zero_le _⟩, ho⟩
  | case4 c unclosed hunclosed hne first hfirst hcomma e' hclose =>
    -- neither a comma nor the closing bracket behind an item
    obtain rfl : e' = e := by simpa using h
    obtain ⟨hno, rfl⟩ := error_of_closing hclose
    obtain ⟨us, hus, hR, hn, htakes⟩ := hp.sound hfirst
    obtain ⟨u, vs, rfl, hu⟩ := hhead hR
    refine ⟨u :: vs, _, first.next, hus, rfl, ?_, fun _ => ?_⟩
    · intro c' d' hpass halike
      obtain ⟨first', hfirst', -, rfl⟩ := htakes c' d' hpass halike.head
      have hcomma' : comma? first'.next = none :=
        comma?_of_ne (by rw [halike.head]; exact none_of_comma? hcomma)
      have hclose' := closing_of_ne (by rw [halike.head]; exact hno)
      rw [items_of_head hpass.head (hu b), hfirst']
      simp only [hcomma', hclose', halike.current]
    · have ho : first.value.operators ≤ c.operators := hus.operators ▸ Nat.le_add_right _ _
      exact Completable.enclosed
        (.of_complete ⟨[first.value], .last hR, Nat.max_le.2 ⟨hn, Nat.zero_le _⟩, ho⟩)
  | case5 => simp at h
  | case6 c unclosed hunclosed hne first hfirst comma hcomma hlt e' hmore ih =>
    -- a failure among the items behind a comma
    obtain rfl : e' = e := by simpa using h
    obtain ⟨us, hus, hR, hn, htakes⟩ := hp.sound hfirst
    obtain ⟨u, vs, rfl, hu⟩ := hhead hR
    obtain ⟨t, hpass, ht⟩ := token_of_comma? hcomma
    refine Fails.after (hus.trans hpass) (ih hmore) ?_ fun ws =>
      Completable.extend (u :: vs ++ [t]) [] (by simp) ?_
    · intro c' k' hck' _ herr
      obtain ⟨m, hcm, hmk⟩ := hck'.split
      obtain ⟨first', hfirst', -, rfl⟩ := htakes c' m hcm (hmk.head.trans hpass.head.symm)
      obtain ⟨comma', hcomma', rfl⟩ := comma?_of_passes hmk ht
      rw [items_of_head hcm.head (hu b), hfirst']
      simp only [hcomma', herr]
    · rintro _ ⟨ws', close, rfl, hclose, es, hes, hns, hos⟩
      refine ⟨u :: vs ++ t :: ws', close, by simp, hclose, first.value :: es, .cons hR ht hes,
        Nat.max_le.2 ⟨hn, hns⟩, ?_⟩
      have hc := (hus.trans hpass).operators
      simp only [Expr.operatorsAll]
      omega
  | case7 => simp at h

/-- Failures in brackets blame one token if those of the content do. -/
theorem closed_blames (hp : item.Reads levels R blocked) (hb : item.Blames levels R)
    {c : Cursor} {e : ParseError} (h : closed b item c = .error e) :
    Fails (closed b item) c e (Completable (Enclosed b (Fits R levels c.operators))) := by
  cases hcontent : item c with
  | error e' =>
    obtain rfl : e' = e := by simpa [closed, hcontent] using h
    exact Fails.first (hb hcontent) (fun c' _ herr => by simp only [closed, herr])
      fun us => Completable.enclosed
  | ok q =>
    obtain ⟨us, hus, hR, hn, htakes⟩ := hp.sound hcontent
    cases hclose : closing b q.next with
    | error e' =>
      obtain rfl : e' = e := by simpa [closed, hcontent, hclose] using h
      obtain ⟨hno, rfl⟩ := error_of_closing hclose
      refine ⟨us, _, q.next, hus, rfl, ?_, fun _ => ?_⟩
      · intro c' d' hpass halike
        obtain ⟨q', hq', -, rfl⟩ := htakes c' d' hpass halike.head
        have hclose' := closing_of_ne (by rw [halike.head]; exact hno)
        simp only [closed, hq', hclose', halike.current]
      · have ho : q.value.operators ≤ c.operators := hus.operators ▸ Nat.le_add_right _ _
        exact Completable.enclosed (.of_complete ⟨q.value, hR, hn, ho⟩)
    | ok close => simp [closed, hcontent, hclose] at h

end Items

/-! ## Operands -/

section Operand

variable {inner : Option (Parser Expr)} {levels : Nat}

theorem error_of_wraps {α β : Type} {c d : Cursor} {f : α → β}
    {x : Except ParseError (Parsed α d)} {y : Except ParseError (Parsed β c)} {e : ParseError}
    (h : Wraps f x y) (he : y = .error e) : x = .error e := by
  subst he
  rcases h with ⟨e', he', h⟩ | ⟨r, q, -, hq, -⟩
  · cases h
    exact he'
  · simp at hq

/-- Brackets around what the next level reads, seen from that level. -/
theorem nested_closed {α : Type} {b : Bracket} (f : Parser Expr → Parser α) (c : Cursor) :
    nested (inner.map fun p => closed b (f p)) c = closed b (nested (inner.map f)) c := by
  cases inner with
  | none => rfl
  | some p => rfl

theorem operand_error_of_unary {c d : Cursor} {t : Token} {op : UnaryOp} {e : ParseError}
    (hcd : c.Passes [t] 0 d) (ht : t.kind = op.token) (h : nested inner d = .error e) :
    operand inner c = .error e := by
  obtain rfl := hcd.eq_of_token
  simp only [operand, unary?_eq_some_iff.2 ht, h, Except.map]

theorem operand_error_of_paren {c d : Cursor} {t : Token} {e : ParseError}
    (hcd : c.Passes [t] 0 d) (ht : t.kind = .opening .round)
    (h : nested (inner.map fun p => closed .round (expressionOf p)) d = .error e) :
    operand inner c = .error e := by
  obtain rfl := hcd.eq_of_token
  rw [nested_closed] at h
  simp only [operand, ht, unary?, literal?, h, Except.map]

theorem operand_error_of_list {c d : Cursor} {t : Token} {e : ParseError}
    (hcd : c.Passes [t] 0 d) (ht : t.kind = .opening .square)
    (h : nested (inner.map fun p => items .square (expressionOf p)) d = .error e) :
    operand inner c = .error e := by
  obtain rfl := hcd.eq_of_token
  simp only [operand, ht, unary?, literal?, h, Except.map]

theorem operand_error_of_call {c d : Cursor} {t o : Token} {s : String} {e : ParseError}
    (hcd : c.Passes [t, o] 0 d) (ht : t.kind = .name s) (ho : o.kind = .opening .round)
    (h : nested (inner.map fun p => items .round (expressionOf p)) d = .error e) :
    operand inner c = .error e := by
  obtain ⟨k, hck, hkd⟩ := hcd.split_token
  obtain rfl := hck.eq_of_token
  obtain rfl := hkd.eq_of_token
  obtain ⟨kind, text, span⟩ := o
  subst ho
  simp only [operand, ht, unary?, literal?, h, Except.map]

/-- The parser of the operands inside an operand with so many levels, as in `Inside`, with its
failures. -/
inductive BlamesInside : Option (Parser Expr) → Nat → Prop
  | none : BlamesInside none 0
  | some {p : Parser Expr} {levels : Nat} :
      p.Reads levels Operand (· = .opening .round) → p.Blames levels Operand →
      BlamesInside (some p) (levels + 1)

/-- Without a further level the limit is to blame, and with one the parser of that level. -/
theorem nested_fails {α : Type} (hinner : BlamesInside inner levels) {f : Parser Expr → Parser α}
    {V : Nat → List Token → Prop} {c : Cursor} {e : ParseError}
    (h : nested (inner.map f) c = .error e)
    (hf : ∀ {p : Parser Expr} {l : Nat}, p.Reads l Operand (· = .opening .round) →
      p.Blames l Operand → f p c = .error e → Fails (f p) c e (V l)) :
    Fails (nested (inner.map f)) c e fun us => ∃ l, levels = l + 1 ∧ V l us := by
  cases hinner with
  | none =>
    -- This is the one failure that leaves no way to go on.
    obtain rfl : ⟨.fewerLevels, c.current⟩ = e := by simpa [nested] using h
    refine Fails.here rfl ?_ fun hcode => absurd rfl hcode
    intro d halike
    simp only [Option.map_none, nested, halike.current]
  | @some p l hp hb =>
    refine Fails.first (hf hp hb h) (fun c' _ herr => herr) ?_
    exact fun us hus => ⟨l, rfl, hus⟩

/-- Failures of operands blame one token if those of the operands inside them do. -/
theorem operand_blames (hinner : BlamesInside inner levels) :
    (operand inner).Blames levels Operand := by
  intro c e h
  rcases operand_cases inner c with ⟨-, herr⟩ | ⟨t, d, hcd, hcases⟩
  · obtain rfl : ⟨.expression, c.current⟩ = e := by simpa [herr c rfl] using h
    refine Fails.here rfl ?_ fun _ => ?_
    · intro d halike
      rw [herr d halike.head, halike.current]
    · -- A literal may stand wherever an operand is missing.
      refine ⟨[⟨.int 0, "0", ⟨0, 0⟩⟩], by simp [Token.Kind.isFinish], .literal (.int 0) ⟨0, 0⟩,
        ?_, Nat.zero_le _, Nat.zero_le _⟩
      exact @Operand.literal ⟨.int 0, "0", ⟨0, 0⟩⟩ _ (.int 0)
  rcases hcases with ⟨v, q, -, hq, -⟩ | ⟨s, q, -, -, hq, -⟩ | ⟨s, o, k, hk, ho, hdk, hw⟩ |
    ⟨ht, hw⟩ | ⟨ht, hw⟩ | ⟨op, ht, hw⟩
  · simp [h] at hq
  · simp [h] at hq
  · -- among the arguments of a call
    have hck := hcd.cons hdk
    refine Fails.after hck (nested_fails hinner (error_of_wraps hw h) fun hp hb =>
      items_blames (expressionOf_reads hp) (expressionOf_blames hp hb) Expression.head) ?_ ?_
    · exact fun c' k' hpass _ => operand_error_of_call hpass hk ho
    · rintro vs ⟨l, rfl, hvs⟩
      refine Completable.extend [t, o] [] (by simp) ?_ hvs
      rintro _ ⟨ws, close, rfl, hclose, es, hes, hn, hops⟩
      refine ⟨.call s t.span es (t.span.merge close.span), ?_, Nat.succ_le_succ hn, ?_⟩
      · simpa using Operand.call hk ho hes hclose
      · simpa [Expr.operators, hck.operators] using hops
  · -- among the items of a list
    refine Fails.after hcd (nested_fails hinner (error_of_wraps hw h) fun hp hb =>
      items_blames (expressionOf_reads hp) (expressionOf_blames hp hb) Expression.head) ?_ ?_
    · exact fun c' k' hpass _ => operand_error_of_list hpass ht
    · rintro vs ⟨l, rfl, hvs⟩
      refine Completable.extend [t] [] (by simp) ?_ hvs
      rintro _ ⟨ws, close, rfl, hclose, es, hes, hn, hops⟩
      refine ⟨.list es (t.span.merge close.span), ?_, Nat.succ_le_succ hn, ?_⟩
      · simpa using Operand.list ht hes hclose
      · simpa [Expr.operators, hcd.operators] using hops
  · -- in brackets; the missing closing bracket counts as a failure of the level inside them
    have hx := error_of_wraps hw h
    rw [← nested_closed] at hx
    refine Fails.after hcd (nested_fails hinner hx fun hp hb =>
      closed_blames (expressionOf_reads hp) (expressionOf_blames hp hb)) ?_ ?_
    · exact fun c' k' hpass _ => operand_error_of_paren hpass ht
    · rintro vs ⟨l, rfl, hvs⟩
      refine Completable.extend [t] [] (by simp) ?_ hvs
      rintro _ ⟨ws, close, rfl, hclose, x, hx, hn, hops⟩
      refine ⟨.paren x (t.span.merge close.span), ?_, Nat.succ_le_succ hn, ?_⟩
      · simpa using Operand.paren ht hx hclose
      · simpa [Expr.operators, hcd.operators] using hops
  · -- behind a sign
    have hx := error_of_wraps hw h
    rw [← Option.map_id' (x := inner)] at hx
    refine Fails.after hcd (nested_fails hinner hx fun _ hb => hb) ?_ ?_
    · intro c' k' hpass _ herr
      rw [Option.map_id'] at herr
      exact operand_error_of_unary hpass ht herr
    · rintro vs ⟨l, rfl, hvs⟩
      refine Completable.extend [t] [] (by simp) ?_ hvs
      rintro ws ⟨x, hx, hn, hops⟩
      refine ⟨.unary op x (t.span.merge x.span), ?_, Nat.succ_le_succ hn, ?_⟩
      · simpa using Operand.unary ht hx
      · simpa [Expr.operators, hcd.operators] using hops

/-- On every level each failure blames one token, behind tokens that can be completed. -/
theorem operandWithin_blames (levels : Nat) : (operandWithin levels).Blames levels Operand := by
  induction levels with
  | zero => exact operand_blames .none
  | succ levels ih => exact operand_blames (.some (operandWithin_reads levels) ih)

theorem expression_blames : expression.Blames maxLevels (Expression Operand) :=
  expressionOf_blames (operandWithin_reads maxLevels) (operandWithin_blames maxLevels)

end Operand

end Parser

end Reckoner
