import Reckoner.Proofs.Grammar.Relocation
import Reckoner.Proofs.Parsing.Operand

/-!
# Which rows of tokens are statements

A row of tokens before the token of the end is read as a statement exactly if the grammar derives
the statement from it and the statement keeps to both limits (`parse_eq_ok_iff`). The grammar is
unambiguous also beyond the limits (`Sentence.unique`): with limits as large as two trees need,
the parser reads a row of tokens as either of them, and it reads it in one way.

`parse_bare_iff_sentence` says the same of trees without spans.
-/

set_option autoImplicit false

namespace Reckoner

open Grammar

/-- A cursor before tokens that an end token closes. -/
theorem Cursor.ofTokens_append {ts : List Token} (hts : ∀ t ∈ ts, t.kind.isFinish = false)
    {q : Token} (hq : q.kind.isFinish = true) (us : List Token) :
    Cursor.ofTokens (ts ++ q :: us) = ⟨ts, q, maxOperators⟩ := by
  have hrest : (ts ++ q :: us).takeWhile (fun t => !t.kind.isFinish) = ts := by
    rw [List.takeWhile_append_of_pos (by simpa using hts)]
    simp [hq]
  have hfinish : (ts ++ q :: us).find? (fun t => t.kind.isFinish) = some q := by
    rw [List.find?_append, List.find?_eq_none.2 (by simpa using hts)]
    simp [hq]
  simp only [Cursor.ofTokens, hrest, hfinish, Option.getD_some]

namespace Parser

theorem Yields.unique {α : Type} {p : Parser α} {c d d' : Cursor} {a a' : α}
    (h : p.Yields c a d) (h' : p.Yields c a' d') : a = a' ∧ d = d' := by
  obtain ⟨r, hr, rfl, rfl⟩ := h
  obtain ⟨r', hr', rfl, rfl⟩ := h'
  obtain rfl : r = r' := by simpa [hr] using hr'
  exact ⟨rfl, rfl⟩

/-- The parser of expressions with room for `levels` levels. -/
theorem expressionWithin_reads (levels : Nat) :
    (expressionOf (operandWithin levels)).Reads levels (Expression Operand) Continues :=
  expressionOf_reads (operandWithin_reads levels)

theorem expression_reads : expression.Reads maxLevels (Expression Operand) Continues :=
  expressionWithin_reads maxLevels

/-- What a statement can be: nothing, an assignment told by its first two tokens, or else an
expression. -/
theorem statement_cases (c : Cursor) :
    (c.rest = [] ∧ statement c = .ok (.blank c.finish.span, c)) ∨
      (∃ t a s d, c.Passes [t, a] 0 d ∧ t.kind = .name s ∧ a.kind = .assign ∧
        statement c = (expression d).map fun e => (.assign s t.span e.value, e.next)) ∨
      (c.rest ≠ [] ∧ (∀ t a us s, c.rest = t :: a :: us → t.kind = .name s → a.kind ≠ .assign) ∧
        statement c = (expression c).map fun e => (.expr e.value, e.next)) := by
  unfold statement
  split
  · exact Or.inl ⟨rfl, rfl⟩
  · next s text span text' span' rest finish n =>
    refine Or.inr (Or.inl ⟨⟨.name s, text, span⟩, ⟨.assign, text', span'⟩, s, ⟨rest, finish, n⟩,
      ⟨rfl, rfl, (Nat.zero_add n).symm⟩, rfl, rfl, rfl⟩)
  · next hblank hassign =>
    obtain ⟨rest, finish, n⟩ := c
    refine Or.inr (Or.inr ⟨?_, ?_, rfl⟩)
    · rintro rfl
      exact hblank finish n rfl
    · rintro ⟨k, text, span⟩ ⟨k', text', span'⟩ us s rfl rfl rfl
      exact hassign s text span text' span' us finish n rfl

/-- No expression begins with a name and an assignment sign: the name would be read alone. -/
theorem not_expression_of_assign {t a : Token} {us : List Token} {s : String} {e : Expr}
    (ht : t.kind = .name s) (ha : a.kind = .assign) : ¬ Expression Operand (t :: a :: us) e := by
  intro h
  -- Read from one place, the tokens would be passed both as a whole and up to the sign.
  have hreads := expressionWithin_reads e.nesting
  have hwhole := hreads.complete h (Nat.le_refl _) (by simp) ⟨t :: a :: us, a, e.operators⟩
    ⟨[], a, 0⟩ ⟨by simp, rfl, rfl⟩ rfl
  have hstop : ∀ u ∈ some a, ¬ Continues u.kind := by
    simp [Continues, ha, multiplicative?, additive?, comparison?]
  have hname := hreads.complete (.of_operand (.name ht)) (Nat.zero_le _) hstop
    ⟨t :: a :: us, a, e.operators⟩ ⟨a :: us, a, e.operators⟩ ⟨rfl, rfl, (Nat.zero_add _).symm⟩ rfl
  simpa using (hwhole.unique hname).2

/-! ## Expressions and statements with nothing behind them -/

/-- An expression with nothing behind it. -/
def soleExpression (c : Cursor) : Except ParseError Expr :=
  match expression c with
  | .error e => .error e
  | .ok r => if r.next.rest.isEmpty then .ok r.value else .error ⟨.finish, r.next.current⟩

/-- A statement with nothing behind it. -/
def soleStatement (c : Cursor) : Except ParseError Statement :=
  match statement c with
  | .error e => .error e
  | .ok (s, d) => if d.rest.isEmpty then .ok s else .error ⟨.finish, d.current⟩

theorem soleStatement_ofTokens (ts : List Token) :
    soleStatement (Cursor.ofTokens ts) = parse ts :=
  rfl

/-- What a statement makes of the expression that ends it. -/
theorem soleStatement_of_map {c d : Cursor} {f : Expr → Statement}
    (h : statement c = (expression d).map fun r => (f r.value, r.next)) :
    soleStatement c = (soleExpression d).map f := by
  unfold soleStatement soleExpression
  rw [h]
  cases expression d with
  | error e => rfl
  | ok r =>
    simp only [Except.map]
    split <;> rfl

/-- All the tokens are read as an expression exactly if the grammar derives it within the
limits. -/
theorem soleExpression_eq_ok_iff {c : Cursor} {e : Expr} :
    soleExpression c = .ok e ↔
      Expression Operand c.rest e ∧ e.nesting ≤ maxLevels ∧ e.operators ≤ c.operators := by
  constructor
  · intro h
    unfold soleExpression at h
    split at h
    · simp at h
    · next r hr =>
      split at h
      · next hempty =>
        obtain rfl : r.value = e := by simpa using h
        obtain ⟨us, hus, hR, hn, -⟩ := expression_reads.sound hr
        have hrest := hus.rest
        rw [List.isEmpty_iff.1 hempty, List.append_nil] at hrest
        rw [hrest, hus.operators]
        exact ⟨hR, hn, Nat.le_add_right _ _⟩
      · simp at h
  · rintro ⟨hR, hn, ho⟩
    have hpass : c.Passes c.rest e.operators ⟨[], c.finish, c.operators - e.operators⟩ :=
      ⟨by simp, rfl, by simp only; omega⟩
    have hstop : ∀ u ∈ (none : Option Token), ¬ Continues u.kind := by simp
    obtain ⟨r, hr, rfl, hnext⟩ := expression_reads.complete hR hn hstop c _ hpass rfl
    simp only [soleExpression, hr, hnext, List.isEmpty_nil, if_true]

/-- All the tokens are read as a statement exactly if the grammar derives it within the limits. -/
theorem soleStatement_eq_ok_iff {c : Cursor} {s : Statement} :
    soleStatement c = .ok s ↔
      Sentence c.finish c.rest s ∧ s.nesting ≤ maxLevels ∧ s.operators ≤ c.operators := by
  rcases statement_cases c with ⟨hc, hblank⟩ | ⟨t, a, name, d, hcd, ht, ha, hassign⟩ |
    ⟨hc, hno, hexpr⟩
  · -- nothing, and nothing derives from it but the blank statement
    have hsole : soleStatement c = .ok (.blank c.finish.span) := by
      simp [soleStatement, hblank, hc]
    rw [hsole, hc]
    constructor
    · rintro ⟨⟩
      exact ⟨.blank, Nat.zero_le _, Nat.zero_le _⟩
    · rintro ⟨hs, -⟩
      cases hs with
      | blank => rfl
      | expr he =>
        obtain ⟨u, us, hus, -⟩ := he.head
        simp at hus
  · -- an assignment, which no expression begins like
    have hrest : c.rest = t :: a :: d.rest := hcd.rest
    have hoperators : c.operators = d.operators := hcd.operators.trans (Nat.zero_add _)
    rw [soleStatement_of_map hassign, hrest, hoperators]
    constructor
    · intro h
      cases he : soleExpression d with
      | error e => simp [he, Except.map] at h
      | ok e =>
        obtain rfl : .assign name t.span e = s := by simpa [he, Except.map] using h
        obtain ⟨hR, hn, ho⟩ := soleExpression_eq_ok_iff.1 he
        exact ⟨.assign ht ha hR, hn, ho⟩
    · rintro ⟨hs, hn, ho⟩
      cases hs with
      | expr he => exact absurd he (not_expression_of_assign ht ha)
      | @assign _ _ _ name' e ht' _ he =>
        obtain rfl : name' = name := by simpa [ht'] using ht
        rw [soleExpression_eq_ok_iff.2 ⟨he, hn, ho⟩]
        rfl
  · -- an expression, whose first two tokens are not those of an assignment
    rw [soleStatement_of_map hexpr]
    constructor
    · intro h
      cases he : soleExpression c with
      | error e => simp [he, Except.map] at h
      | ok e =>
        obtain rfl : .expr e = s := by simpa [he, Except.map] using h
        obtain ⟨hR, hn, ho⟩ := soleExpression_eq_ok_iff.1 he
        exact ⟨.expr hR, hn, ho⟩
    · rintro ⟨hs, hn, ho⟩
      generalize hus : c.rest = us at hs
      cases hs with
      | blank => exact absurd hus hc
      | expr he =>
        subst hus
        rw [soleExpression_eq_ok_iff.2 ⟨he, hn, ho⟩]
        rfl
      | assign ht ha => exact absurd ha (hno _ _ _ _ hus ht)

end Parser

/-- Tokens are read as exactly the statements that the grammar derives within the limits. -/
theorem parse_eq_ok_iff {ts : List Token} (hts : ∀ t ∈ ts, t.kind.isFinish = false) {q : Token}
    (hq : q.kind.isFinish = true) {us : List Token} {s : Statement} :
    parse (ts ++ q :: us) = .ok s ↔
      Sentence q ts s ∧ s.nesting ≤ maxLevels ∧ s.operators ≤ maxOperators := by
  rw [← Parser.soleStatement_ofTokens, Cursor.ofTokens_append hts hq]
  exact Parser.soleStatement_eq_ok_iff

namespace Grammar

/-- A row of tokens has one tree at most, however deep and long. -/
theorem Expression.unique {us : List Token} {e e' : Expr} (h : Expression Operand us e)
    (h' : Expression Operand us e') : e = e' := by
  -- Room for either tree; what is left over of the operators differs.
  have hreads := Parser.expressionWithin_reads (max e.nesting e'.nesting)
  have hread : ∀ {x : Expr}, Expression Operand us x → x.nesting ≤ max e.nesting e'.nesting →
      x.operators ≤ e.operators + e'.operators →
      (Parser.expressionOf (Parser.operandWithin (max e.nesting e'.nesting))).Yields
        ⟨us, Token.finishAt 0, e.operators + e'.operators⟩ x
        ⟨[], Token.finishAt 0, e.operators + e'.operators - x.operators⟩ := by
    intro x hx hn hops
    exact hreads.complete hx hn (by simp) _ _ ⟨by simp, rfl, by simp only; omega⟩ rfl
  exact ((hread h (Nat.le_max_left _ _) (Nat.le_add_right _ _)).unique
    (hread h' (Nat.le_max_right _ _) (Nat.le_add_left _ _))).1

/-- A row of tokens is one statement at most, however deep and long. -/
theorem Sentence.unique {finish : Token} {us : List Token} {s s' : Statement}
    (h : Sentence finish us s) (h' : Sentence finish us s') : s = s' := by
  cases h with
  | blank =>
    cases h' with
    | blank => rfl
    | expr h' =>
      obtain ⟨t, vs, h0, -⟩ := h'.head
      simp at h0
  | expr h =>
    cases h' with
    | blank =>
      obtain ⟨t, vs, h0, -⟩ := h.head
      simp at h0
    | expr h' => rw [h.unique h']
    | assign ht ha h' => exact absurd h (Parser.not_expression_of_assign ht ha)
  | assign ht ha h =>
    cases h' with
    | expr h' => exact absurd h' (Parser.not_expression_of_assign ht ha)
    | assign ht' ha' h' =>
      rw [ht] at ht'
      cases ht'
      rw [h.unique h']

end Grammar

/-- With spans left out of account, tokens before an end are read as a statement exactly if the
grammar derives the statement from them, no path of the tree passes more than 64 levels and the
tree has at most 256 binary operators; and there is at most one tree to derive. -/
theorem parse_bare_iff_sentence {ts : List Token} (hts : ∀ t ∈ ts, t.kind.isFinish = false)
    {q : Token} (hq : q.kind.isFinish = true) :
    (∀ s : Statement, (parse (ts ++ [q])).map Statement.bare = .ok s ↔
      Sentence q.bare (ts.map Token.bare) s ∧ s.nesting ≤ 64 ∧ s.operators ≤ 256) ∧
    ∀ s s' : Statement, Sentence q.bare (ts.map Token.bare) s →
      Sentence q.bare (ts.map Token.bare) s' → s = s' := by
  refine ⟨fun s => ⟨fun h => ?_, ?_⟩, fun s s' => Sentence.unique⟩
  · cases hparse : parse (ts ++ [q]) with
    | error e => simp [hparse, Except.map] at h
    | ok s' =>
      obtain rfl : s'.bare = s := by simpa [hparse, Except.map] using h
      obtain ⟨hs, hn, hops⟩ := (parse_eq_ok_iff hts hq).1 hparse
      rw [Statement.nesting_bare, Statement.operators_bare]
      exact ⟨hs.mapSpans fun _ _ => (Span.point_merge 0).symm, hn, hops⟩
  · rintro ⟨hs, hn, hops⟩
    obtain ⟨s', hs', rfl⟩ := hs.locate
    rw [Statement.nesting_bare] at hn
    rw [Statement.operators_bare] at hops
    simp only [(parse_eq_ok_iff hts hq).2 ⟨hs', hn, hops⟩, Except.map]

/-- `1 - 2 - 3` is read as the difference of a difference and a number. -/
theorem parse_bare_difference :
    (∀ t ∈ [(⟨.int 1, "1", ⟨0, 1⟩⟩ : Token), ⟨.minus, "-", ⟨2, 3⟩⟩, ⟨.int 2, "2", ⟨4, 5⟩⟩,
      ⟨.minus, "-", ⟨6, 7⟩⟩, ⟨.int 3, "3", ⟨8, 9⟩⟩], t.kind.isFinish = false) ∧
    (parse ([⟨.int 1, "1", ⟨0, 1⟩⟩, ⟨.minus, "-", ⟨2, 3⟩⟩, ⟨.int 2, "2", ⟨4, 5⟩⟩,
      ⟨.minus, "-", ⟨6, 7⟩⟩, ⟨.int 3, "3", ⟨8, 9⟩⟩] ++ [Token.finishAt 9])).map Statement.bare =
      .ok (.expr (.binary .sub
        (.binary .sub (.literal (.int 1) ⟨0, 0⟩) (.literal (.int 2) ⟨0, 0⟩) ⟨0, 0⟩)
        (.literal (.int 3) ⟨0, 0⟩) ⟨0, 0⟩)) := by
  have hts : ∀ t ∈ [(⟨.int 1, "1", ⟨0, 1⟩⟩ : Token), ⟨.minus, "-", ⟨2, 3⟩⟩, ⟨.int 2, "2", ⟨4, 5⟩⟩,
      ⟨.minus, "-", ⟨6, 7⟩⟩, ⟨.int 3, "3", ⟨8, 9⟩⟩], t.kind.isFinish = false := by
    simp [Token.Kind.isFinish]
  refine ⟨hts, ((parse_bare_iff_sentence hts rfl).1 _).2 ⟨?_, by decide, by decide⟩⟩
  have number : ∀ (n : Int64) (text : String), Chain .product Operand
      [⟨.int n, text, ⟨0, 0⟩⟩] (.literal (.int n) ⟨0, 0⟩) :=
    fun n text => .first (@Operand.literal ⟨.int n, text, ⟨0, 0⟩⟩ _ (.int n))
  have left := @Chain.next .sum _ _ _ ⟨.minus, "-", ⟨0, 0⟩⟩ .sub _ _ (.first (number 1 "1")) rfl rfl
    (number 2 "2")
  exact .expr (.one (@Chain.next .sum _ _ _ ⟨.minus, "-", ⟨0, 0⟩⟩ .sub _ _ left rfl rfl
    (number 3 "3")))

end Reckoner
