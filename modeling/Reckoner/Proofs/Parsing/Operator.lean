import Reckoner.Proofs.Grammar

/-!
# Parsers of operands and operators

A parser is described by the rows of tokens that it takes. `Takes p us a cost next` says that
wherever the tokens `us` stand and `next` follows them, `p` reads exactly `us`, gives `a` and has
looked no further than `next`; `cost` is the number of binary operators that this uses up.

`Reads p levels R blocked` puts a parser beside the rules `R` of the grammar. A tree that `R`
derives and that nests at most `levels` deep is read, if no token of the kinds `blocked` follows
that would be read with it; and whatever is read has such a derivation. Each way of building a
parser from operands and operators keeps this: chains (`chain_reads`), comparisons
(`comparison_reads`), and whole expressions (`expressionOf_reads`).
-/

set_option autoImplicit false

namespace Reckoner

open Grammar

/-! ## Cursors along a row of tokens -/

/-- Passing the tokens `us`, at the cost of so many binary operators, leads from `c` to `d`. -/
structure Cursor.Passes (c : Cursor) (us : List Token) (cost : Nat) (d : Cursor) : Prop where
  rest : c.rest = us ++ d.rest
  finish : c.finish = d.finish
  operators : c.operators = cost + d.operators

namespace Cursor.Passes

variable {c d e : Cursor} {us vs : List Token} {a b : Nat}

theorem refl (c : Cursor) : c.Passes [] 0 c :=
  ⟨rfl, rfl, (Nat.zero_add _).symm⟩

theorem trans (h : c.Passes us a d) (h' : d.Passes vs b e) : c.Passes (us ++ vs) (a + b) e where
  rest := by rw [h.rest, h'.rest, List.append_assoc]
  finish := h.finish.trans h'.finish
  operators := by rw [h.operators, h'.operators, Nat.add_assoc]

/-- Between two rows of tokens there is a cursor. -/
theorem split (h : c.Passes (us ++ vs) (a + b) e) : ∃ d, c.Passes us a d ∧ d.Passes vs b e := by
  refine ⟨⟨vs ++ e.rest, e.finish, b + e.operators⟩, ⟨?_, h.finish, ?_⟩, ⟨rfl, rfl, rfl⟩⟩
  · rw [h.rest, List.append_assoc]
  · rw [h.operators, Nat.add_assoc]

/-- Behind a token that costs no operator there is a cursor. -/
theorem split_token {t : Token} (h : c.Passes (t :: us) a e) :
    ∃ d, c.Passes [t] 0 d ∧ d.Passes us a e := by
  rw [← Nat.zero_add a] at h
  exact @split c e [t] us 0 a h

theorem cons {t : Token} (h : c.Passes [t] 0 d) (h' : d.Passes us a e) :
    c.Passes (t :: us) a e := by
  have := h.trans h'
  rwa [Nat.zero_add] at this

theorem eq_of_nil (h : c.Passes [] 0 d) : c = d := by
  obtain ⟨rest, finish, n⟩ := c
  obtain ⟨rfl, rfl, hn⟩ := h
  rw [Nat.zero_add] at hn
  cases hn
  rfl

theorem eq_of_token {t : Token} (h : c.Passes [t] 0 d) :
    c = ⟨t :: d.rest, d.finish, d.operators⟩ := by
  obtain ⟨rest, finish, n⟩ := c
  obtain ⟨hrest, hfinish, hn⟩ := h
  simp only [List.cons_append, List.nil_append, Nat.zero_add] at hrest hfinish hn
  rw [hrest, hfinish, hn]

theorem head {t : Token} (h : c.Passes (t :: us) a d) : c.rest.head? = some t := by
  rw [h.rest]
  rfl

end Cursor.Passes

namespace Parser

/-- Read from `c`, the parser gives `a` and stops at `d`. -/
def Yields {α : Type} (p : Parser α) (c : Cursor) (a : α) (d : Cursor) : Prop :=
  ∃ r : Parsed α c, p c = .ok r ∧ r.value = a ∧ r.next = d

/-- Wherever the tokens `us` are followed by `next`, the parser reads them as `a` and looks no
further. -/
def Takes {α : Type} (p : Parser α) (us : List Token) (a : α) (cost : Nat)
    (next : Option Token) : Prop :=
  ∀ c d : Cursor, c.Passes us cost d → d.rest.head? = next → p.Yields c a d

/-- The parser reads the trees that `R` derives and that nest no deeper than `levels`, unless a
token of the kinds `blocked` follows them, and it reads nothing else. -/
structure Reads (p : Parser Expr) (levels : Nat) (R : List Token → Expr → Prop)
    (blocked : Token.Kind → Prop) : Prop where
  complete : ∀ {us : List Token} {e : Expr} {next : Option Token}, R us e → e.nesting ≤ levels →
    (∀ t ∈ next, ¬ blocked t.kind) → p.Takes us e e.operators next
  sound : ∀ {c : Cursor} {r : Parsed Expr c}, p c = .ok r →
    ∃ us, c.Passes us r.value.operators r.next ∧ R us r.value ∧ r.value.nesting ≤ levels ∧
      p.Takes us r.value r.value.operators r.next.rest.head?

/-! ## Operators and the operands behind them -/

section RightOperand

variable {operator? : Token.Kind → Option BinaryOp} {operand : Parser Expr}

/-- What can happen where an operator may follow: there is none; there is one, but no more are
allowed; or there is one, and the operand behind it decides. -/
theorem rightOperand?_cases (operator? : Token.Kind → Option BinaryOp) (operand : Parser Expr)
    (c : Cursor) :
    ((∀ t ∈ c.rest.head?, operator? t.kind = none) ∧
        rightOperand? operator? operand c = .ok none) ∨
      ∃ t op, c.rest.head? = some t ∧ operator? t.kind = some op ∧
        ((c.operators = 0 ∧ rightOperand? operator? operand c = .error ⟨.fewerOperators, t⟩) ∨
          ∃ d, c.Passes [t] 1 d ∧
            ((∃ e, operand d = .error e ∧ rightOperand? operator? operand c = .error e) ∨
              ∃ r q, operand d = .ok r ∧ rightOperand? operator? operand c = .ok (some q) ∧
                q.value = (op, r.value) ∧ q.next = r.next)) := by
  obtain ⟨rest, finish, n⟩ := c
  cases rest with
  | nil => exact Or.inl ⟨by simp, rfl⟩
  | cons t rest =>
    cases hop : operator? t.kind with
    | none => exact Or.inl ⟨by simpa using hop, by simp only [rightOperand?, hop]⟩
    | some op =>
      refine Or.inr ⟨t, op, rfl, hop, ?_⟩
      cases n with
      | zero => exact Or.inl ⟨rfl, by simp only [rightOperand?, hop]⟩
      | succ left =>
        refine Or.inr ⟨⟨rest, finish, left⟩, ⟨rfl, rfl, Nat.add_comm left 1⟩, ?_⟩
        cases hr : operand ⟨rest, finish, left⟩ with
        | error e => exact Or.inl ⟨e, rfl, by simp only [rightOperand?, hop, hr, Except.map]⟩
        | ok r =>
          refine Or.inr ⟨r, (r.map (Prod.mk op)).behind, rfl, ?_, rfl, rfl⟩
          simp only [rightOperand?, hop, hr, Except.map]

theorem rightOperand?_of_none {c : Cursor} (h : ∀ t ∈ c.rest.head?, operator? t.kind = none) :
    rightOperand? operator? operand c = .ok none := by
  rcases rightOperand?_cases operator? operand c with ⟨-, hnone⟩ | ⟨t, op, ht, hop, -⟩
  · exact hnone
  · simp [h t ht] at hop

/-- An operator and an operand that stand next are read. -/
theorem rightOperand?_of_takes {c d : Cursor} {t : Token} {vs : List Token} {op : BinaryOp}
    {e : Expr} (hcd : c.Passes (t :: vs) (e.operators + 1) d) (ht : operator? t.kind = some op)
    (h : operand.Takes vs e e.operators d.rest.head?) :
    ∃ q, rightOperand? operator? operand c = .ok (some q) ∧ q.value = (op, e) ∧ q.next = d := by
  obtain ⟨rest, finish, n⟩ := c
  obtain ⟨hrest, hfinish, hn⟩ := hcd
  simp only [List.cons_append] at hrest hfinish hn
  obtain rfl : n = e.operators + d.operators + 1 := by omega
  subst hrest
  obtain ⟨r, hr, hvalue, hnext⟩ :=
    h ⟨vs ++ d.rest, finish, e.operators + d.operators⟩ d ⟨rfl, hfinish, rfl⟩ rfl
  refine ⟨(r.map (Prod.mk op)).behind, ?_, ?_, hnext⟩
  · simp only [rightOperand?, ht, hr, Except.map]
  · simp only [Parsed.behind, Parsed.map, hvalue]

theorem none_of_rightOperand? {c : Cursor} (h : rightOperand? operator? operand c = .ok none) :
    ∀ t ∈ c.rest.head?, operator? t.kind = none := by
  rcases rightOperand?_cases operator? operand c with ⟨hno, -⟩ | ⟨t, op, -, -, h'⟩
  · exact hno
  · rcases h' with ⟨-, h'⟩ | ⟨d, -, ⟨e, -, h'⟩ | ⟨r, q, -, h', -⟩⟩ <;> simp [h] at h'

theorem some_of_rightOperand? {c : Cursor} {q : Parsed (BinaryOp × Expr) c}
    (h : rightOperand? operator? operand c = .ok (some q)) :
    ∃ t op d r, c.Passes [t] 1 d ∧ operator? t.kind = some op ∧ operand d = .ok r ∧
      q.value = (op, r.value) ∧ q.next = r.next := by
  rcases rightOperand?_cases operator? operand c with ⟨-, h'⟩ | ⟨t, op, -, hop, h'⟩
  · simp [h] at h'
  · rcases h' with ⟨-, h'⟩ | ⟨d, hd, ⟨e, -, h'⟩ | ⟨r, q', hr, h', hvalue, hnext⟩⟩
    · simp [h] at h'
    · simp [h] at h'
    · obtain rfl : q = q' := by simpa [h] using h'
      exact ⟨t, op, d, r, hd, hop, hr, hvalue, hnext⟩

/-- An operator and an operand that were read, joined to the tree on their left. -/
theorem join_of_rightOperand? {levels : Nat} {R : List Token → Expr → Prop}
    {blocked : Token.Kind → Prop} (hp : operand.Reads levels R blocked) {c : Cursor}
    {left : Parsed Expr c} {us : List Token}
    (hus : c.Passes us left.value.operators left.next) {q : Parsed (BinaryOp × Expr) left.next}
    (h : rightOperand? operator? operand left.next = .ok (some q)) :
    ∃ t vs op r, left.next.rest.head? = some t ∧ operator? t.kind = some op ∧ R vs r ∧
      r.nesting ≤ levels ∧ operand.Takes vs r r.operators q.next.rest.head? ∧
      (left.append join q).value = join left.value (op, r) ∧
      c.Passes (us ++ t :: vs) (join left.value (op, r)).operators q.next := by
  obtain ⟨t, op, d, r, hd, hop, hr, hvalue, hnext⟩ := some_of_rightOperand? h
  obtain ⟨vs, hvs, hR, hn, htakes⟩ := hp.sound hr
  rw [← hnext] at htakes hvs
  refine ⟨t, vs, op, r.value, hd.head, hop, hR, hn, htakes, ?_, ?_⟩
  · simp only [Parsed.append, hvalue]
  · have hpass := hus.trans (hd.trans hvs)
    rwa [Nat.add_comm 1] at hpass

end RightOperand

/-! ## Chains -/

section Chain

variable {operator? : Token.Kind → Option BinaryOp} {operand : Parser Expr}

/-- Wherever `us` is followed by `next`, the loop of a chain gets behind `us` with `e` in hand. -/
def Reaches (operator? : Token.Kind → Option BinaryOp) (operand : Parser Expr) (us : List Token)
    (e : Expr) (next : Option Token) : Prop :=
  ∀ c d : Cursor, c.Passes us e.operators d → d.rest.head? = next →
    ∃ left : Parsed Expr c, left.value = e ∧ left.next = d ∧
      chain operator? operand c = chainFrom operator? operand left

theorem Reaches.first {us : List Token} {e : Expr} {next : Option Token}
    (h : operand.Takes us e e.operators next) : Reaches operator? operand us e next := by
  intro c d hcd hd
  obtain ⟨left, hleft, hvalue, hnext⟩ := h c d hcd hd
  exact ⟨left, hvalue, hnext, by simp only [chain, hleft]⟩

theorem Reaches.next {us vs : List Token} {t : Token} {op : BinaryOp} {l r : Expr}
    {next : Option Token} (hl : Reaches operator? operand us l (some t))
    (ht : operator? t.kind = some op) (hr : operand.Takes vs r r.operators next) :
    Reaches operator? operand (us ++ t :: vs) (join l (op, r)) next := by
  rintro c d hcd rfl
  obtain ⟨m, hcm, hmd⟩ := Cursor.Passes.split (a := l.operators) (b := r.operators + 1) hcd
  obtain ⟨left, hvalue, rfl, hloop⟩ := hl c m hcm hmd.head
  obtain ⟨q, hq, hqv, hqn⟩ := rightOperand?_of_takes hmd ht hr
  refine ⟨left.append join q, ?_, hqn, ?_⟩
  · simp only [Parsed.append, hvalue, hqv]
  · rw [hloop, chainFrom, hq]

/-- The loop ends where no operator of its class follows. -/
theorem Reaches.stop {us : List Token} {e : Expr} {next : Option Token}
    (h : Reaches operator? operand us e next) (hnext : ∀ t ∈ next, operator? t.kind = none) :
    (chain operator? operand).Takes us e e.operators next := by
  rintro c d hcd rfl
  obtain ⟨left, hvalue, rfl, hloop⟩ := h c d hcd rfl
  exact ⟨left, by rw [hloop, chainFrom, rightOperand?_of_none hnext], hvalue, rfl⟩

variable {levels : Nat} {R : List Token → Expr → Prop} {blocked : Token.Kind → Prop}
  {layer : Layer}

/-- The loop gets behind every derived chain. The tree grows along the derivation as it grows
along the loop. -/
theorem reaches_of_chain (hp : operand.Reads levels R blocked)
    (hop : ∀ {k : Token.Kind} {op : BinaryOp},
      operator? k = some op ↔ op.layer = layer ∧ k = op.token)
    (hblocked : ∀ {k : Token.Kind}, blocked k → operator? k = none)
    {us : List Token} {e : Expr} {next : Option Token} (h : Chain layer R us e)
    (hn : e.nesting ≤ levels) (hnext : ∀ t ∈ next, ¬ blocked t.kind) :
    Reaches operator? operand us e next := by
  induction h generalizing next with
  | first h => exact .first (hp.complete h hn hnext)
  | @next us vs t op l r hl hlayer ht hr ih =>
    rw [Expr.nesting, Nat.max_le] at hn
    have ht' : operator? t.kind = some op := hop.2 ⟨hlayer, ht⟩
    refine Reaches.next (ih hn.1 ?_) ht' (hp.complete hr hn.2 hnext)
    rintro _ ⟨⟩ hb
    simp [hblocked hb] at ht'

/-- The invariant of the loop: what it has in hand is a derived chain within the limits, and every
chain that begins with the same tokens comes to where it is. -/
structure Looping (operator? : Token.Kind → Option BinaryOp) (operand : Parser Expr)
    (levels : Nat) (layer : Layer) (R : List Token → Expr → Prop) {c : Cursor} (us : List Token)
    (left : Parsed Expr c) : Prop where
  passes : c.Passes us left.value.operators left.next
  derived : Chain layer R us left.value
  nesting : left.value.nesting ≤ levels
  reaches : Reaches operator? operand us left.value left.next.rest.head?

theorem Looping.first (hp : operand.Reads levels R blocked) {c : Cursor} {first : Parsed Expr c}
    (h : operand c = .ok first) : ∃ us, Looping operator? operand levels layer R us first := by
  obtain ⟨us, hus, hR, hn, htakes⟩ := hp.sound h
  exact ⟨us, hus, .first hR, hn, .first htakes⟩

/-- The loop goes on with an operator and an operand joined to what it had in hand. -/
theorem Looping.next (hp : operand.Reads levels R blocked)
    (hop : ∀ {k : Token.Kind} {op : BinaryOp},
      operator? k = some op ↔ op.layer = layer ∧ k = op.token)
    {c : Cursor} {left : Parsed Expr c} {q : Parsed (BinaryOp × Expr) left.next}
    {us : List Token} (h : Looping operator? operand levels layer R us left)
    (hq : rightOperand? operator? operand left.next = .ok (some q)) :
    ∃ vs, Looping operator? operand levels layer R vs (left.append join q) := by
  obtain ⟨hus, hR, hn, hreach⟩ := h
  obtain ⟨t, vs, op, right, hhead, ht, hRvs, hnvs, htakes, hvalue, hpass⟩ :=
    join_of_rightOperand? hp hus hq
  obtain ⟨hlayer, hk⟩ := hop.1 ht
  refine ⟨us ++ t :: vs, ?_, ?_, ?_, ?_⟩
  · rw [hvalue]
    exact hpass
  · rw [hvalue]
    exact .next hR hlayer hk hRvs
  · rw [hvalue]
    exact Nat.max_le.2 ⟨hn, hnvs⟩
  · rw [hvalue]
    refine Reaches.next ?_ ht htakes
    rwa [hhead] at hreach

/-- What the loop returns is a derived chain. -/
theorem chainFrom_sound (hp : operand.Reads levels R blocked)
    (hop : ∀ {k : Token.Kind} {op : BinaryOp},
      operator? k = some op ↔ op.layer = layer ∧ k = op.token)
    {c : Cursor} {left r : Parsed Expr c} (h : chainFrom operator? operand left = .ok r)
    {us : List Token} (hloop : Looping operator? operand levels layer R us left) :
    ∃ vs, c.Passes vs r.value.operators r.next ∧ Chain layer R vs r.value ∧
      r.value.nesting ≤ levels ∧
      (chain operator? operand).Takes vs r.value r.value.operators r.next.rest.head? := by
  fun_induction chainFrom operator? operand left generalizing us with
  | case1 left e he => simp at h
  | case2 left hnone =>
    -- no operator of the class follows
    obtain rfl : left = r := by simpa using h
    obtain ⟨hus, hR, hn, hreach⟩ := hloop
    exact ⟨us, hus, hR, hn, hreach.stop (none_of_rightOperand? hnone)⟩
  | case3 left q hq hlt ih =>
    -- one more operator and operand
    obtain ⟨vs, hloop'⟩ := hloop.next hp hop hq
    exact ih h hloop'

/-- Chains of operands that are read are read. -/
theorem chain_reads (hp : operand.Reads levels R blocked)
    (hop : ∀ {k : Token.Kind} {op : BinaryOp},
      operator? k = some op ↔ op.layer = layer ∧ k = op.token)
    (hblocked : ∀ {k : Token.Kind}, blocked k → operator? k = none) :
    (chain operator? operand).Reads levels (Chain layer R)
      (fun k => blocked k ∨ (operator? k).isSome) where
  complete := by
    intro us e next h hn hnext
    refine Reaches.stop (reaches_of_chain hp hop hblocked h hn ?_) ?_
    · exact fun t ht hb => hnext t ht (Or.inl hb)
    · exact fun t ht => Option.not_isSome_iff_eq_none.1 fun hs => hnext t ht (Or.inr hs)
  sound := by
    intro c r h
    unfold chain at h
    split at h
    · simp at h
    · next first hfirst =>
      obtain ⟨us, hloop⟩ := Looping.first hp hfirst
      exact chainFrom_sound hp hop h hloop

end Chain

/-! ## Comparisons -/

section Comparison

variable {operand : Parser Expr}

theorem comparison_takes_one {us : List Token} {e : Expr} {next : Option Token}
    (h : operand.Takes us e e.operators next) (hnext : ∀ t ∈ next, comparison? t.kind = none) :
    (comparison operand).Takes us e e.operators next := by
  rintro c d hcd rfl
  obtain ⟨left, hleft, hvalue, rfl⟩ := h c d hcd rfl
  exact ⟨left, by simp only [comparison, hleft, rightOperand?_of_none hnext], hvalue, rfl⟩

theorem comparison_takes_two {us vs : List Token} {t : Token} {op : BinaryOp} {l r : Expr}
    {next : Option Token} (hl : operand.Takes us l l.operators (some t))
    (ht : comparison? t.kind = some op) (hr : operand.Takes vs r r.operators next) :
    (comparison operand).Takes (us ++ t :: vs) (join l (op, r)) (join l (op, r)).operators
      next := by
  rintro c d hcd rfl
  obtain ⟨m, hcm, hmd⟩ := Cursor.Passes.split (a := l.operators) (b := r.operators + 1) hcd
  obtain ⟨left, hleft, hvalue, rfl⟩ := hl c m hcm hmd.head
  obtain ⟨q, hq, hqv, hqn⟩ := rightOperand?_of_takes hmd ht hr
  refine ⟨left.append join q, by simp only [comparison, hleft, hq], ?_, hqn⟩
  simp only [Parsed.append, hvalue, hqv]

theorem comparison?_eq_some_iff {k : Token.Kind} {op : BinaryOp} :
    comparison? k = some op ↔ op.layer = .comparison ∧ k = op.token := by
  cases k <;> cases op <;> simp [comparison?, BinaryOp.layer, BinaryOp.token]

/-- Comparisons of operands that are read are read. -/
theorem comparison_reads {levels : Nat} {R : List Token → Expr → Prop}
    {blocked : Token.Kind → Prop} (hp : operand.Reads levels R blocked)
    (hblocked : ∀ {k : Token.Kind}, blocked k → comparison? k = none) :
    (comparison operand).Reads levels (Comparison R)
      (fun k => blocked k ∨ (comparison? k).isSome) where
  complete := by
    intro us e next h hn hnext
    have hfree : ∀ t ∈ next, ¬ blocked t.kind := fun t ht hb => hnext t ht (Or.inl hb)
    cases h with
    | one h =>
      refine comparison_takes_one (hp.complete h hn hfree) fun t ht => ?_
      exact Option.not_isSome_iff_eq_none.1 fun hs => hnext t ht (Or.inr hs)
    | @two us vs t op l r hl hlayer ht hr =>
      rw [Expr.nesting, Nat.max_le] at hn
      have ht' : comparison? t.kind = some op := comparison?_eq_some_iff.2 ⟨hlayer, ht⟩
      refine comparison_takes_two (hp.complete hl hn.1 ?_) ht' (hp.complete hr hn.2 hfree)
      -- A comparison sign does not make the left operand longer.
      rintro _ ⟨⟩ hb
      simp [hblocked hb] at ht'
  sound := by
    intro c r h
    unfold comparison at h
    split at h
    · simp at h
    · next left hleft =>
      obtain ⟨us, hus, hR, hn, htakes⟩ := hp.sound hleft
      split at h
      · simp at h
      · next hnone =>
        obtain rfl : left = r := by simpa using h
        exact ⟨us, hus, .one hR, hn, comparison_takes_one htakes (none_of_rightOperand? hnone)⟩
      · next q hq =>
        obtain rfl : left.append join q = r := by simpa using h
        obtain ⟨t, vs, op, right, hhead, ht, hRvs, hnvs, htakes', hvalue, hpass⟩ :=
          join_of_rightOperand? hp hus hq
        obtain ⟨hlayer, hk⟩ := comparison?_eq_some_iff.1 ht
        rw [hvalue]
        refine ⟨us ++ t :: vs, hpass, .two hR hlayer hk hRvs, Nat.max_le.2 ⟨hn, hnvs⟩, ?_⟩
        refine comparison_takes_two ?_ ht htakes'
        rwa [hhead] at htakes

end Comparison

/-! ## Expressions -/

theorem additive?_eq_some_iff {k : Token.Kind} {op : BinaryOp} :
    additive? k = some op ↔ op.layer = .sum ∧ k = op.token := by
  cases k <;> cases op <;> simp [additive?, BinaryOp.layer, BinaryOp.token]

theorem multiplicative?_eq_some_iff {k : Token.Kind} {op : BinaryOp} :
    multiplicative? k = some op ↔ op.layer = .product ∧ k = op.token := by
  cases k <;> cases op <;> simp [multiplicative?, BinaryOp.layer, BinaryOp.token]

section Expressions

variable {operand : Parser Expr} {levels : Nat} {R : List Token → Expr → Prop}

/-- The kinds of token that are read with an expression if they follow it: an opening bracket
makes a call of a name, and an operator has an operand behind it. -/
def Continues (k : Token.Kind) : Prop :=
  ((k = .opening .round ∨ (multiplicative? k).isSome) ∨ (additive? k).isSome) ∨
    (comparison? k).isSome

theorem products_reads (hp : operand.Reads levels R (· = .opening .round)) :
    (chain multiplicative? operand).Reads levels (Chain .product R)
      fun k => k = .opening .round ∨ (multiplicative? k).isSome := by
  refine chain_reads hp multiplicative?_eq_some_iff ?_
  rintro _ rfl
  rfl

-- The operators of one layer are none of the next, so each loop stops at those of the others.
theorem sums_reads (hp : operand.Reads levels R (· = .opening .round)) :
    (chain additive? (chain multiplicative? operand)).Reads levels
      (Chain .sum (Chain .product R)) fun k =>
        (k = .opening .round ∨ (multiplicative? k).isSome) ∨ (additive? k).isSome := by
  refine chain_reads (products_reads hp) additive?_eq_some_iff ?_
  intro k
  cases k <;> simp [additive?, multiplicative?]

/-- Expressions of operands that are read are read. -/
theorem expressionOf_reads (hp : operand.Reads levels R (· = .opening .round)) :
    (expressionOf operand).Reads levels (Expression R) Continues := by
  refine comparison_reads (sums_reads hp) ?_
  intro k
  cases k <;> simp [comparison?, additive?, multiplicative?]

end Expressions

end Parser

end Reckoner
