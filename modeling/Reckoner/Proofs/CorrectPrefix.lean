import Reckoner.Proofs.Parsing.Failure
import Reckoner.Proofs.Recognition

/-!
# Parse errors come as early as they can and no earlier

A parse error blames one token of the row. The tokens up to that one decide on the error, whatever
follows them; and the tokens before it begin some statement, unless a limit was exceeded. The main
statement is `parse_error_correct_prefix`.

The one place where the parser looks at two tokens is the beginning of an assignment. A statement
that fails at its first token cannot turn into an assignment by a change of the second: an
assignment begins with a name, and a name alone is an expression.
-/

set_option autoImplicit false

namespace Reckoner

open Grammar

namespace Parser

theorem soleStatement_of_assign {c d : Cursor} {t a : Token} {s : String}
    (hcd : c.Passes [t, a] 0 d) (ht : t.kind = .name s) (ha : a.kind = .assign) :
    soleStatement c = (soleExpression d).map (.assign s t.span) := by
  obtain ⟨k, hck, hkd⟩ := hcd.split_token
  obtain rfl := hck.eq_of_token
  obtain rfl := hkd.eq_of_token
  obtain ⟨kind, text, span⟩ := t
  obtain ⟨kind', text', span'⟩ := a
  subst ht ha
  exact soleStatement_of_map rfl

theorem soleStatement_of_not_assign {c : Cursor} (hc : c.rest ≠ [])
    (hno : ∀ t a us s, c.rest = t :: a :: us → t.kind = .name s → a.kind ≠ .assign) :
    soleStatement c = (soleExpression c).map .expr := by
  rcases statement_cases c with ⟨hnil, -⟩ | ⟨t, a, s, d, hcd, ht, ha, -⟩ | ⟨-, -, hexpr⟩
  · exact absurd hnil hc
  · exact absurd ha (hno t a d.rest s hcd.rest ht)
  · exact soleStatement_of_map hexpr

/-- A token behind an expression is blamed if nothing may stand there. -/
theorem soleExpression_fails {c : Cursor} {e : ParseError} (h : soleExpression c = .error e) :
    Fails soleExpression c e
      (Completable (Fits (Expression Operand) maxLevels c.operators)) := by
  cases hexpr : expression c with
  | error e' =>
    obtain rfl : e' = e := by simpa [soleExpression, hexpr] using h
    exact Fails.first (expression_blames hexpr)
      (fun c' _ herr => by simp only [soleExpression, herr]) fun _ hus => hus
  | ok r =>
    obtain ⟨us, hus, hR, hn, htakes⟩ := expression_reads.sound hexpr
    obtain ⟨hne, rfl⟩ : r.next.rest ≠ [] ∧ ⟨.finish, r.next.current⟩ = e := by
      simp only [soleExpression, hexpr] at h
      split at h
      · simp at h
      · next hne => exact ⟨by simpa using hne, by simpa using h⟩
    refine ⟨us, _, r.next, hus, rfl, ?_, fun _ => ?_⟩
    · intro c' d' hpass halike
      obtain ⟨r', hr', -, rfl⟩ := htakes c' d' hpass halike.head
      have hne' : r'.next.rest.isEmpty = false := by
        rw [← Bool.not_eq_true, List.isEmpty_iff, ← List.head?_eq_none_iff, halike.head]
        simpa using hne
      simp [soleExpression, hr', hne', halike.current]
    · have ho : r.value.operators ≤ c.operators := hus.operators ▸ Nat.le_add_right _ _
      exact .of_complete ⟨r.value, hR, hn, ho⟩

/-- A name with nothing behind it is an expression, so it is never the token to blame. -/
theorem soleExpression_name {t : Token} {s : String} (ht : t.kind = .name s) (finish : Token)
    (operators : Nat) : soleExpression ⟨[t], finish, operators⟩ = .ok (.name s t.span) :=
  soleExpression_eq_ok_iff.2 ⟨.of_operand (.name ht), Nat.zero_le _, Nat.zero_le _⟩

/-- Behind a first token that is not to blame, the second decides whether there is an assignment;
so where there was none, there is none before the same tokens. -/
theorem not_assign_of_fails {c c' d d' : Cursor} {us : List Token} {cost : Nat} {e : ParseError}
    (hcd : c.Passes us cost d) (hcd' : c'.Passes us cost d') (halike : d'.Alike d)
    (hno : ∀ t a us s, c.rest = t :: a :: us → t.kind = .name s → a.kind ≠ .assign)
    (hreject : ∀ c' d' : Cursor, c'.Passes us cost d' → d'.Alike d →
      soleExpression c' = .error e) :
    ∀ t a vs s, c'.rest = t :: a :: vs → t.kind = .name s → a.kind ≠ .assign := by
  intro t a vs s hrest ht
  rw [hcd'.rest] at hrest
  match us with
  | [] =>
    -- The name alone would be rejected too.
    have hhead : d.rest.head? = some t := by
      rw [← halike.head, ← List.nil_append d'.rest, hrest]
      rfl
    have halone := hreject ⟨[t], t, cost + d.operators⟩ ⟨[t], t, d.operators⟩ ⟨rfl, rfl, rfl⟩
      ⟨rfl, hhead.symm, (Cursor.current_of_head hhead).symm⟩
    simp [soleExpression_name ht] at halone
  | [u] =>
    obtain ⟨rfl, hd'⟩ : u = t ∧ d'.rest = a :: vs := by simpa using hrest
    obtain ⟨ws, hws⟩ := List.head?_eq_some_iff.1 (halike.head ▸ congrArg List.head? hd')
    exact hno u a ws s (by rw [hcd.rest, hws]; rfl) ht
  | u :: u' :: us =>
    obtain ⟨rfl, rfl, -⟩ : u = t ∧ u' = a ∧ us ++ d'.rest = vs := by simpa using hrest
    exact hno u u' _ s hcd.rest ht

theorem error_of_map {α β : Type} {x : Except ParseError α} {f : α → β} {e : ParseError}
    (h : x.map f = .error e) : x = .error e := by
  cases x with
  | error e' =>
    cases h
    rfl
  | ok a => simp [Except.map] at h

/-- Statements within the limits, before whatever token ends them. -/
def FitsSentence (us : List Token) : Prop :=
  ∀ q : Token, ∃ s, Sentence q us s ∧ s.nesting ≤ maxLevels ∧ s.operators ≤ maxOperators

/-- A failure of a statement blames one token, behind tokens that begin a statement. -/
theorem soleStatement_fails {c : Cursor} {e : ParseError} (hc : c.operators = maxOperators)
    (h : soleStatement c = .error e) : Fails soleStatement c e (Completable FitsSentence) := by
  rcases statement_cases c with ⟨hnil, hblank⟩ | ⟨t, a, s, k, hck, ht, ha, -⟩ | ⟨hne, hno, -⟩
  · simp [soleStatement, hblank, hnil] at h
  · have hk : k.operators = maxOperators := by
      rw [← hc, hck.operators, Nat.zero_add]
    rw [soleStatement_of_assign hck ht ha] at h
    refine Fails.after hck (soleExpression_fails (error_of_map h)) ?_ fun vs =>
      Completable.extend [t, a] [] (by simp) ?_
    · intro c' k' hck' _ herr
      rw [soleStatement_of_assign hck' ht ha, herr]
      rfl
    · rintro ws ⟨x, hx, hn, ho⟩ q
      exact ⟨.assign s t.span x, by simpa using Sentence.assign ht ha hx, hn, hk ▸ ho⟩
  · rw [soleStatement_of_not_assign hne hno] at h
    obtain ⟨us, cost, d, hcd, hfound, hreject, hviable⟩ := soleExpression_fails (error_of_map h)
    refine ⟨us, cost, d, hcd, hfound, ?_, fun hcode => (hviable hcode).mono ?_⟩
    · intro c' d' hcd' halike
      have hne' : c'.rest ≠ [] := by
        rw [Ne, ← List.head?_eq_none_iff, hcd.head_eq hcd' halike.head, List.head?_eq_none_iff]
        exact hne
      rw [soleStatement_of_not_assign hne' (not_assign_of_fails hcd hcd' halike hno hreject),
        hreject c' d' hcd' halike]
      rfl
    · rintro ws ⟨x, hx, hn, ho⟩ q
      exact ⟨.expr x, .expr hx, hn, hc ▸ ho⟩

end Parser

/-! ## Rows of tokens -/

/-- A cursor before tokens that are no end. -/
theorem Cursor.ofTokens_passes {ts : List Token} (hts : ∀ t ∈ ts, t.kind.isFinish = false)
    (us : List Token) {cost n : Nat} (hn : maxOperators = cost + n) :
    ∃ d : Cursor, (Cursor.ofTokens (ts ++ us)).Passes ts cost d ∧ d.operators = n ∧
      d.rest = us.takeWhile fun t => !t.kind.isFinish := by
  refine ⟨⟨us.takeWhile fun t => !t.kind.isFinish, _, n⟩, ⟨?_, rfl, hn⟩, rfl, rfl⟩
  exact List.takeWhile_append_of_pos (by simpa using hts)

section Row

variable {body us : List Token} {q : Token} {cost : Nat} {d : Cursor}
  (hbody : ∀ t ∈ body, t.kind.isFinish = false)
  (hd : Cursor.Passes ⟨body, q, maxOperators⟩ us cost d)

include hd

theorem Cursor.Passes.exists_current : ∃ rest, body ++ [q] = us ++ d.current :: rest := by
  have hrest : body = us ++ d.rest := hd.rest
  have hfinish : q = d.finish := hd.finish
  obtain ⟨rest, finish, n⟩ := d
  cases rest with
  | nil => exact ⟨[], by simp [hrest, hfinish, Cursor.current]⟩
  | cons t rest => exact ⟨rest ++ [q], by simp [hrest, Cursor.current]⟩

include hbody

/-- A failure that depends on the tokens up to the blamed one alone stands whatever follows it. -/
theorem parse_of_rejected (hq : q.kind.isFinish = true) {e : ParseError}
    (hreject : ∀ c' d' : Cursor, c'.Passes us cost d' → d'.Alike d →
      Parser.soleStatement c' = .error e) (more : List Token) :
    parse (us ++ d.current :: more) = .error e := by
  have hrest : body = us ++ d.rest := hd.rest
  rw [← Parser.soleStatement_ofTokens]
  cases hcases : d.rest with
  | nil =>
    -- The end of the row is to blame, and nothing behind it is looked at.
    obtain rfl : body = us := by simpa [hcases] using hrest
    have hcurrent : d.current = q := by
      rw [Cursor.current, hcases]
      exact hd.finish.symm
    rw [hcurrent, Cursor.ofTokens_append hbody hq]
    exact hreject _ d hd ⟨rfl, rfl, rfl⟩
  | cons t rest =>
    have hcurrent : d.current = t := Cursor.current_of_head (by rw [hcases]; rfl)
    have hus : ∀ u ∈ us, u.kind.isFinish = false := fun u hu => hbody u (by simp [hrest, hu])
    have ht : t.kind.isFinish = false := hbody t (by simp [hrest, hcases])
    obtain ⟨d', hcd', hn, hd'⟩ := Cursor.ofTokens_passes hus (t :: more) hd.operators
    have hhead : d'.rest.head? = some t := by simp [hd', ht]
    rw [hcurrent]
    exact hreject _ d' hcd' ⟨hn, by rw [hhead, hcases]; rfl,
      (Cursor.current_of_head hhead).trans hcurrent.symm⟩

end Row

/-- Tokens that can be completed to a statement are read with the completion behind them. -/
theorem parse_of_completable {us : List Token} (hus : ∀ t ∈ us, t.kind.isFinish = false)
    (h : Parser.Completable Parser.FitsSentence us) :
    ∃ vs, (∀ v ∈ vs, v.kind.isFinish = false) ∧
      ∀ q, q.kind.isFinish = true → ∃ s, parse (us ++ vs ++ [q]) = .ok s := by
  obtain ⟨vs, hvs, hfits⟩ := h
  have hall : ∀ t ∈ us ++ vs, t.kind.isFinish = false := by
    intro t ht
    exact (List.mem_append.1 ht).elim (hus t) (hvs t)
  refine ⟨vs, hvs, fun q hq => ?_⟩
  obtain ⟨s, hs⟩ := hfits q
  exact ⟨s, (parse_eq_ok_iff hall hq).2 hs⟩

/-- A parse error blames one token of the row. It stands with the tokens up to that one, whatever
follows them. And the tokens before it begin a statement, unless the statement nests too deep or has
too many operators. -/
theorem parse_error_correct_prefix {body : List Token}
    (hbody : ∀ t ∈ body, t.kind.isFinish = false) {q : Token} (hq : q.kind.isFinish = true)
    {e : ParseError} (h : parse (body ++ [q]) = .error e) :
    ∃ i t, (body ++ [q])[i]? = some t ∧ e.span = t.span ∧ e.found = t ∧
      (∀ us, parse ((body ++ [q]).take (i + 1) ++ us) = .error e) ∧
      (e.code ≠ 204 → ∃ vs, (∀ v ∈ vs, v.kind.isFinish = false) ∧
        ∀ q', q'.kind.isFinish = true →
          ∃ s, parse ((body ++ [q]).take i ++ vs ++ [q']) = .ok s) := by
  rw [← Parser.soleStatement_ofTokens, Cursor.ofTokens_append hbody hq] at h
  obtain ⟨us, cost, d, hd, hfound, hreject, hviable⟩ := Parser.soleStatement_fails rfl h
  obtain ⟨rest, hrow⟩ := hd.exists_current
  have hbefore : (us ++ d.current :: rest).take us.length = us := List.take_left' rfl
  have hupto : (us ++ d.current :: rest).take (us.length + 1) = us ++ [d.current] := by
    rw [← List.singleton_append, ← List.append_assoc]
    exact List.take_left' (by simp)
  rw [hrow]
  refine ⟨us.length, d.current, by simp, by rw [hfound, ParseError.span], hfound.symm, ?_, ?_⟩
  · intro more
    rw [hupto, List.append_assoc]
    exact parse_of_rejected hbody hd hq hreject more
  · intro hcode
    have hrest : body = us ++ d.rest := hd.rest
    have hus : ∀ t ∈ us, t.kind.isFinish = false := fun t ht => hbody t (by simp [hrest, ht])
    rw [hbefore]
    exact parse_of_completable hus (hviable hcode)

/-- The tokens of `[1 2`. -/
def unclosedList : List Token :=
  [⟨.opening .square, "[", ⟨0, 1⟩⟩, ⟨.int 1, "1", ⟨1, 2⟩⟩, ⟨.int 2, "2", ⟨3, 4⟩⟩]

/-- In `[1 2` the second number is to blame: a bracket should have stood there. -/
theorem parse_error_unclosedList :
    (∀ t ∈ unclosedList, t.kind.isFinish = false) ∧
    parse (unclosedList ++ [Token.finishAt 4]) =
      .error ⟨.closing .square, ⟨.int 2, "2", ⟨3, 4⟩⟩⟩ ∧
    ∃ i t, (unclosedList ++ [Token.finishAt 4])[i]? = some t ∧ t.span = ⟨3, 4⟩ ∧
      ∃ vs, ∀ q', q'.kind.isFinish = true →
        ∃ s, parse ((unclosedList ++ [Token.finishAt 4]).take i ++ vs ++ [q']) = .ok s := by
  have hbody : ∀ t ∈ unclosedList, t.kind.isFinish = false := by
    simp [unclosedList, Token.Kind.isFinish]
  have herror : parse (unclosedList ++ [Token.finishAt 4]) =
      .error ⟨.closing .square, ⟨.int 2, "2", ⟨3, 4⟩⟩⟩ := by
    cbv
  obtain ⟨i, t, ht, hspan, -, -, hviable⟩ := parse_error_correct_prefix hbody rfl herror
  obtain ⟨vs, -, hvs⟩ := hviable (by decide)
  exact ⟨hbody, herror, i, t, ht, hspan.symm, vs, hvs⟩

end Reckoner
