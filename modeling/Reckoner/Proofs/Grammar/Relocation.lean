import Reckoner.Proofs.Grammar

/-!
# Derivations and spans

The rules of the grammar look at the kinds of tokens and never at their spans. A derivation
therefore goes along with any change of spans that goes along with covering (`Operand.mapSpans`),
and a derivation over tokens without spans comes from one over the tokens with them
(`Sentence.locate`).
-/

set_option autoImplicit false

namespace Reckoner

namespace Token

/-- The token with its span changed by `f`. -/
def mapSpan (f : Span → Span) (t : Token) : Token :=
  { t with span := f t.span }

/-- The token without its span. -/
def bare (t : Token) : Token :=
  t.mapSpan fun _ => Span.point 0

end Token

theorem Span.point_merge (offset : Nat) :
    (Span.point offset).merge (Span.point offset) = Span.point offset := by
  simp [Span.merge, Span.point]

@[simp]
theorem Expr.span_bare (e : Expr) : e.bare.span = Span.point 0 :=
  Expr.span_mapSpans _ e

namespace Grammar

/-! ## Along a change of spans -/

section MapSpans

variable {f : Span → Span} (hf : ∀ a b : Span, f (a.merge b) = (f a).merge (f b))
  {R S : List Token → Expr → Prop}

include hf

theorem Chain.mapSpans {layer : Layer}
    (hRS : ∀ us e, R us e → S (us.map (Token.mapSpan f)) (e.mapSpans f)) {us : List Token}
    {e : Expr} (h : Chain layer R us e) :
    Chain layer S (us.map (Token.mapSpan f)) (e.mapSpans f) := by
  induction h with
  | first h => exact .first (hRS _ _ h)
  | next _ hop ht hr ih =>
    rw [List.map_append, List.map_cons, Expr.mapSpans, hf, ← Expr.span_mapSpans f,
      ← Expr.span_mapSpans f]
    exact .next ih hop ht (hRS _ _ hr)

theorem Comparison.mapSpans
    (hRS : ∀ us e, R us e → S (us.map (Token.mapSpan f)) (e.mapSpans f)) {us : List Token}
    {e : Expr} (h : Comparison R us e) :
    Comparison S (us.map (Token.mapSpan f)) (e.mapSpans f) := by
  cases h with
  | one h => exact .one (hRS _ _ h)
  | two hl hop ht hr =>
    rw [List.map_append, List.map_cons, Expr.mapSpans, hf, ← Expr.span_mapSpans f,
      ← Expr.span_mapSpans f]
    exact .two (hRS _ _ hl) hop ht (hRS _ _ hr)

theorem Expression.mapSpans
    (hRS : ∀ us e, R us e → S (us.map (Token.mapSpan f)) (e.mapSpans f)) {us : List Token}
    {e : Expr} (h : Expression R us e) :
    Expression S (us.map (Token.mapSpan f)) (e.mapSpans f) :=
  Comparison.mapSpans hf (fun _ _ h => Chain.mapSpans hf (fun _ _ h => Chain.mapSpans hf hRS h) h) h

omit hf in
theorem Arguments.mapSpans
    (hRS : ∀ us e, R us e → S (us.map (Token.mapSpan f)) (e.mapSpans f)) {us : List Token}
    {es : List Expr} (h : Arguments R us es) :
    Arguments S (us.map (Token.mapSpan f)) (Expr.mapSpansAll f es) := by
  induction h with
  | none => exact .none
  | last h => exact .last (hRS _ _ h)
  | cons h ht _ ih =>
    rw [List.map_append, List.map_cons]
    exact .cons (hRS _ _ h) ht ih

/-- A derivation of an operand goes along with a change of spans. -/
theorem Operand.mapSpans {us : List Token} {e : Expr} (h : Operand us e) :
    Operand (us.map (Token.mapSpan f)) (e.mapSpans f) := by
  have inside : ∀ (us : List Token) (e : Expr),
      (∃ _ : Operand us e, Operand (us.map (Token.mapSpan f)) (e.mapSpans f)) →
      Operand (us.map (Token.mapSpan f)) (e.mapSpans f) := fun _ _ h => h.2
  induction h using Operand.induction with
  | literal hv => exact .literal hv
  | name hk => exact .name hk
  | call hk ho _ hc ih =>
    simp only [List.map_cons, List.map_append, List.map_nil, Expr.mapSpans, hf]
    exact .call hk ho (Arguments.mapSpans (fun _ _ => Expression.mapSpans hf inside) ih) hc
  | list ho _ hc ih =>
    simp only [List.map_cons, List.map_append, List.map_nil, Expr.mapSpans, hf]
    exact .list ho (Arguments.mapSpans (fun _ _ => Expression.mapSpans hf inside) ih) hc
  | paren ho _ hc ih =>
    simp only [List.map_cons, List.map_append, List.map_nil, Expr.mapSpans, hf]
    exact .paren ho (Expression.mapSpans hf inside ih) hc
  | unary ht _ ih =>
    rw [List.map_cons, Expr.mapSpans, hf, ← Expr.span_mapSpans f]
    exact .unary ht ih

/-- A derivation of a statement goes along with a change of spans. -/
theorem Sentence.mapSpans {finish : Token} {us : List Token} {s : Statement}
    (h : Sentence finish us s) :
    Sentence (finish.mapSpan f) (us.map (Token.mapSpan f)) (s.mapSpans f) := by
  cases h with
  | blank => exact .blank
  | expr h => exact .expr (Expression.mapSpans hf (fun _ _ h => h.mapSpans hf) h)
  | assign hk ha h =>
    exact .assign hk ha (Expression.mapSpans hf (fun _ _ h => h.mapSpans hf) h)

end MapSpans

/-! ## Spans put back -/

section Locate

/-- Whatever `R` derives from tokens without spans, `S` derives from the tokens with them. -/
def Locates (R S : List Token → Expr → Prop) : Prop :=
  ∀ (us : List Token) (e : Expr), R (us.map Token.bare) e → ∃ e', S us e' ∧ e'.bare = e

/-- Two trees with spans under an operator, compared with the same trees without. -/
theorem bare_binary {op : BinaryOp} {l r l' r' : Expr} (hl : l'.bare = l) (hr : r'.bare = r) :
    (Expr.binary op l' r' (l'.span.merge r'.span)).bare =
      .binary op l r (l.span.merge r.span) := by
  subst hl hr
  rw [Expr.span_bare, Expr.span_bare, Span.point_merge]
  rfl

variable {R S : List Token → Expr → Prop}

theorem Chain.locate {layer : Layer} (hRS : Locates R S) :
    Locates (Chain layer R) (Chain layer S) := by
  intro us e h
  generalize hws : us.map Token.bare = ws at h
  induction h generalizing us with
  | first h =>
    subst hws
    obtain ⟨e', he', hbare⟩ := hRS _ _ h
    exact ⟨e', .first he', hbare⟩
  | next _ hop ht hr ih =>
    obtain ⟨vs, ws', rfl, hvs, hws'⟩ := List.map_eq_append_iff.1 hws
    obtain ⟨t', ws, rfl, rfl, rfl⟩ := List.map_eq_cons_iff.1 hws'
    obtain ⟨l', hl', hlbare⟩ := ih vs hvs
    obtain ⟨r', hr', hrbare⟩ := hRS _ _ hr
    exact ⟨_, .next hl' hop ht hr', bare_binary hlbare hrbare⟩

theorem Comparison.locate (hRS : Locates R S) : Locates (Comparison R) (Comparison S) := by
  intro us e h
  generalize hws : us.map Token.bare = ws at h
  cases h with
  | one h =>
    subst hws
    obtain ⟨e', he', hbare⟩ := hRS _ _ h
    exact ⟨e', .one he', hbare⟩
  | two hl hop ht hr =>
    obtain ⟨vs, ws', rfl, rfl, hws'⟩ := List.map_eq_append_iff.1 hws
    obtain ⟨t', ws, rfl, rfl, rfl⟩ := List.map_eq_cons_iff.1 hws'
    obtain ⟨l', hl', hlbare⟩ := hRS _ _ hl
    obtain ⟨r', hr', hrbare⟩ := hRS _ _ hr
    exact ⟨_, .two hl' hop ht hr', bare_binary hlbare hrbare⟩

theorem Expression.locate (hRS : Locates R S) : Locates (Expression R) (Expression S) :=
  Comparison.locate (Chain.locate (Chain.locate hRS))

theorem Arguments.locate (hRS : Locates R S) {us : List Token} {es : List Expr}
    (h : Arguments R (us.map Token.bare) es) :
    ∃ es', Arguments S us es' ∧ Expr.mapSpansAll (fun _ => Span.point 0) es' = es := by
  generalize hws : us.map Token.bare = ws at h
  induction h generalizing us with
  | none =>
    obtain rfl := List.map_eq_nil_iff.1 hws
    exact ⟨[], .none, rfl⟩
  | last h =>
    subst hws
    obtain ⟨e', he', rfl⟩ := hRS _ _ h
    exact ⟨[e'], .last he', rfl⟩
  | cons h ht _ ih =>
    obtain ⟨vs, ws', rfl, rfl, hws'⟩ := List.map_eq_append_iff.1 hws
    obtain ⟨t', ws, rfl, rfl, hws''⟩ := List.map_eq_cons_iff.1 hws'
    obtain ⟨e', he', rfl⟩ := hRS _ _ h
    obtain ⟨es', hes', rfl⟩ := ih hws''
    exact ⟨e' :: es', .cons he' ht hes', rfl⟩

theorem map_eq_enclosed {g : Token → Token} {us vs : List Token} {o c : Token}
    (h : us.map g = o :: (vs ++ [c])) :
    ∃ o' vs' c', us = o' :: (vs' ++ [c']) ∧ g o' = o ∧ vs'.map g = vs ∧ g c' = c := by
  obtain ⟨o', ws, rfl, ho, hws⟩ := List.map_eq_cons_iff.1 h
  obtain ⟨vs', ws', rfl, hvs, hws'⟩ := List.map_eq_append_iff.1 hws
  obtain ⟨c', rfl, hc⟩ := List.map_eq_singleton_iff.1 hws'
  exact ⟨o', vs', c', rfl, ho, hvs, hc⟩

/-- An operand derived without spans is one derived with them, its spans taken away. -/
theorem Operand.locate : Locates Operand Operand := by
  intro us e h
  generalize hws : us.map Token.bare = ws at h
  have inside : Locates (fun ws e => ∃ _ : Operand ws e, ∀ us : List Token,
      us.map Token.bare = ws → ∃ e', Operand us e' ∧ e'.bare = e) Operand :=
    fun us _ h => h.2 us rfl
  induction h using Operand.induction generalizing us with
  | literal hv =>
    obtain ⟨t', rfl, rfl⟩ := List.map_eq_singleton_iff.1 hws
    exact ⟨_, .literal hv, rfl⟩
  | name hk =>
    obtain ⟨t', rfl, rfl⟩ := List.map_eq_singleton_iff.1 hws
    exact ⟨_, .name hk, rfl⟩
  | call hk ho _ hc ih =>
    obtain ⟨t', ws, rfl, rfl, hws'⟩ := List.map_eq_cons_iff.1 hws
    obtain ⟨o', vs, c', rfl, rfl, rfl, rfl⟩ := map_eq_enclosed hws'
    obtain ⟨es', hes', rfl⟩ := ih.locate (Expression.locate inside)
    refine ⟨_, .call hk ho hes' hc, ?_⟩
    simp [Expr.bare, Expr.mapSpans, Token.bare, Token.mapSpan, Span.point_merge]
  | list ho _ hc ih =>
    obtain ⟨o', vs, c', rfl, rfl, rfl, rfl⟩ := map_eq_enclosed hws
    obtain ⟨es', hes', rfl⟩ := ih.locate (Expression.locate inside)
    refine ⟨_, .list ho hes' hc, ?_⟩
    simp [Expr.bare, Expr.mapSpans, Token.bare, Token.mapSpan, Span.point_merge]
  | paren ho _ hc ih =>
    obtain ⟨o', vs, c', rfl, rfl, rfl, rfl⟩ := map_eq_enclosed hws
    obtain ⟨e', he', rfl⟩ := Expression.locate inside _ _ ih
    refine ⟨_, .paren ho he' hc, ?_⟩
    simp [Expr.bare, Expr.mapSpans, Token.bare, Token.mapSpan, Span.point_merge]
  | unary ht _ ih =>
    obtain ⟨t', ws, rfl, rfl, hws'⟩ := List.map_eq_cons_iff.1 hws
    obtain ⟨e', he', rfl⟩ := ih ws hws'
    refine ⟨_, .unary ht he', ?_⟩
    simp [Expr.bare, Expr.mapSpans, Token.bare, Token.mapSpan, Span.point_merge]

/-- A statement derived without spans is one derived with them, its spans taken away. -/
theorem Sentence.locate {finish : Token} {us : List Token} {s : Statement}
    (h : Sentence finish.bare (us.map Token.bare) s) :
    ∃ s', Sentence finish us s' ∧ s'.bare = s := by
  generalize hws : us.map Token.bare = ws at h
  cases h with
  | blank =>
    obtain rfl := List.map_eq_nil_iff.1 hws
    exact ⟨_, .blank, rfl⟩
  | expr h =>
    subst hws
    obtain ⟨e', he', rfl⟩ := Expression.locate Operand.locate _ _ h
    exact ⟨_, .expr he', rfl⟩
  | assign hk ha h =>
    obtain ⟨t', ws, rfl, rfl, hws'⟩ := List.map_eq_cons_iff.1 hws
    obtain ⟨a', vs, rfl, rfl, rfl⟩ := List.map_eq_cons_iff.1 hws'
    obtain ⟨e', he', rfl⟩ := Expression.locate Operand.locate _ _ h
    exact ⟨_, .assign hk ha he', rfl⟩

end Locate

end Grammar

end Reckoner
