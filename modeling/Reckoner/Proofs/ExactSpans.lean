import Reckoner.Proofs.Lexing.Slice
import Reckoner.Proofs.Reading

/-!
# Spans are exact

The span of an expression in the tree of a line cuts out of the line a text that reads as the
expression again, with its spans counted from the start of the cut; and so does the span of the
statement (`read_slice_span`).

Three facts come together. The tokens that an expression is derived from stand side by side in the
line (`Expression.consecutive`). Its span goes from the start of the first of them to the stop of
the last (`Expression.hull`). And a line cut at the ends of words lexes as before.
-/

set_option autoImplicit false

namespace Reckoner

open Token

namespace Grammar

/-! ## The tokens of a node -/

/-- Some tokens that stand side by side in the row derive the expression. -/
def Consecutive (us : List Token) (n : Expr) : Prop :=
  ∃ pre mid post, us = pre ++ (mid ++ post) ∧ Expression Operand mid n

namespace Consecutive

variable {us : List Token} {n : Expr}

theorem of_expression (h : Expression Operand us n) : Consecutive us n :=
  ⟨[], us, [], by simp, h⟩

theorem append_left (ws : List Token) (h : Consecutive us n) : Consecutive (ws ++ us) n := by
  obtain ⟨pre, mid, post, rfl, hmid⟩ := h
  exact ⟨ws ++ pre, mid, post, by simp, hmid⟩

theorem append_right (ws : List Token) (h : Consecutive us n) : Consecutive (us ++ ws) n := by
  obtain ⟨pre, mid, post, rfl, hmid⟩ := h
  exact ⟨pre, mid, post ++ ws, by simp, hmid⟩

end Consecutive

/-- Operands inside which every expression has its tokens side by side. -/
def InnerConsecutive (us : List Token) (e : Expr) : Prop :=
  ∃ _ : Operand us e, ∀ n ∈ e.inner, Consecutive us n

theorem consecutive_of_inner {us : List Token} {e : Expr} (h : Expression InnerConsecutive us e) :
    ∀ n ∈ e.nodes, Consecutive us n := by
  refine Expression.induction (P := fun us e => ∀ n ∈ e.nodes, Consecutive us n) ?_ ?_ h
  · rintro us e ⟨he, hinner⟩ n hn
    rcases List.mem_cons.1 hn with rfl | hn
    · exact .of_expression (.of_operand he)
    · exact hinner n hn
  · intro us vs t op l r hwhole hl hr n hn
    rcases List.mem_cons.1 hn with rfl | hn
    · exact .of_expression (hwhole.mono fun _ _ h => h.1)
    · rcases List.mem_append.1 hn with hn | hn
      · exact (hl n hn).append_right _
      · rw [← List.singleton_append, ← List.append_assoc]
        exact (hr n hn).append_left _

theorem consecutive_of_arguments {us : List Token} {es : List Expr}
    (h : Arguments (Expression InnerConsecutive) us es) :
    ∀ n ∈ Expr.nodesAll es, Consecutive us n := by
  induction h with
  | none => simp [Expr.nodesAll]
  | last h =>
    intro n hn
    rw [Expr.nodesAll, Expr.nodesAll, List.append_nil] at hn
    exact consecutive_of_inner h n hn
  | @cons us vs t e es h _ _ ih =>
    intro n hn
    rcases List.mem_append.1 hn with hn | hn
    · exact (consecutive_of_inner h n hn).append_right _
    · rw [← List.singleton_append, ← List.append_assoc]
      exact (ih n hn).append_left _

theorem Operand.innerConsecutive {us : List Token} {e : Expr} (h : Operand us e) :
    ∀ n ∈ e.inner, Consecutive us n := by
  induction h using Operand.induction with
  | literal => simp [Expr.inner]
  | name => simp [Expr.inner]
  | @call t o c us s es _ _ _ _ ih =>
    intro n hn
    exact ((consecutive_of_arguments ih n hn).append_right [c]).append_left [t, o]
  | @list o c us es _ _ _ ih =>
    intro n hn
    exact ((consecutive_of_arguments ih n hn).append_right [c]).append_left [o]
  | @paren o c us e _ _ _ ih =>
    intro n hn
    exact ((consecutive_of_inner ih n hn).append_right [c]).append_left [o]
  | @unary t us op e _ h ih =>
    intro n hn
    rcases List.mem_cons.1 hn with rfl | hn
    · exact (Consecutive.of_expression (.of_operand h)).append_left [t]
    · exact (ih n hn).append_left [t]

/-- Every expression of a derived tree has its tokens side by side. -/
theorem Expression.consecutive {us : List Token} {e : Expr} (h : Expression Operand us e) :
    ∀ n ∈ e.nodes, Consecutive us n :=
  consecutive_of_inner (h.mono fun _ _ h => ⟨h, h.innerConsecutive⟩)

/-! ## The span of a node -/

/-- The span goes from the start of the first token to the stop of the last. -/
def Hull (us : List Token) (s : Span) : Prop :=
  ∃ t u, us.head? = some t ∧ us.getLast? = some u ∧ s = ⟨t.span.start, u.span.stop⟩

theorem Hull.token (t : Token) : Hull [t] t.span :=
  ⟨t, t, rfl, rfl, rfl⟩

/-- The span that covers the first and the last of three rows goes from end to end. -/
theorem Hull.merge {us vs : List Token} {s s' : Span} (ws : List Token) (h : Hull us s)
    (h' : Hull vs s') (hrow : (us ++ (ws ++ vs)).Pairwise Precedes) :
    Hull (us ++ (ws ++ vs)) (s.merge s') := by
  obtain ⟨t, u, ht, hu, rfl⟩ := h
  obtain ⟨t', u', ht', hu', rfl⟩ := h'
  have hbefore := (List.pairwise_append.1 hrow).2.2
  have hstart := (hbefore t (List.mem_of_head? ht) t' (by simp [List.mem_of_head? ht'])).1
  have hstop := (hbefore u (List.mem_of_getLast? hu) u' (by simp [List.mem_of_getLast? hu'])).2
  refine ⟨t, u', ?_, ?_, ?_⟩
  · rw [List.head?_append, ht]
    rfl
  · rw [← List.append_assoc, List.getLast?_append, hu']
    rfl
  · simp only [Span.merge, Span.mk.injEq]
    omega

theorem Operand.hull {us : List Token} {e : Expr} (h : Operand us e)
    (hrow : us.Pairwise Precedes) : Hull us e.span := by
  induction h using Operand.induction with
  | @literal t => exact .token t
  | @name t => exact .token t
  | @call t o c us => exact .merge (o :: us) (.token t) (.token c) hrow
  | @list o c us => exact .merge us (.token o) (.token c) hrow
  | @paren o c us => exact .merge us (.token o) (.token c) hrow
  | @unary t us op e _ _ ih => exact .merge [] (.token t) (ih (List.pairwise_cons.1 hrow).2) hrow

/-- The span of an expression covers exactly the tokens it is derived from. -/
theorem Expression.hull {us : List Token} {e : Expr} (h : Expression Operand us e)
    (hrow : us.Pairwise Precedes) : Hull us e.span := by
  refine Expression.induction (P := fun us e => us.Pairwise Precedes → Hull us e.span)
    (fun us e h => h.hull) ?_ h hrow
  intro us vs t op l r _ hl hr hrow
  obtain ⟨hus, htvs, -⟩ := List.pairwise_append.1 hrow
  exact .merge [t] (hl hus) (hr (List.pairwise_cons.1 htvs).2) hrow

/-- A statement whose tokens all stand behind an offset is moved back by it and forward again
without a change. -/
theorem Sentence.forward_back {q : Token} {us : List Token} {s : Statement} {n : Nat}
    (h : Sentence q us s) (hq : n ≤ q.span.start ∧ n ≤ q.span.stop)
    (hus : ∀ t ∈ us, n ≤ t.span.start ∧ n ≤ t.span.stop) :
    (s.mapSpans (Span.back n)).mapSpans (Span.forward n) = s := by
  have htoken : ∀ t : Token, n ≤ t.span.start ∧ n ≤ t.span.stop →
      (t.mapSpan (Span.back n)).mapSpan (Span.forward n) = t := by
    rintro t ⟨hstart, hstop⟩
    simp only [Token.mapSpan, Span.forward_back hstart hstop]
  have hrow : (us.map (Token.mapSpan (Span.back n))).map (Token.mapSpan (Span.forward n)) = us := by
    rw [List.map_map]
    exact (List.map_congr_left fun t ht => htoken t (hus t ht)).trans (List.map_id us)
  -- Both are derived from the same tokens.
  have hmoved := (h.mapSpans (Span.back_merge n)).mapSpans (Span.forward_merge n)
  rw [hrow, htoken q hq] at hmoved
  exact hmoved.unique h

end Grammar

open Grammar

/-- Tokens that stand side by side in a line and derive a statement cut out a text that says it. -/
theorem read_slice {line : String} {pre us post : List Token} {q : Token} {span : Span}
    {s : Statement} (hline : Lexes line.toList 0 (pre ++ (us ++ post) ++ [q]))
    (hhull : Hull us span) (hs : ∀ q, Sentence q us s) (hn : s.nesting ≤ maxLevels)
    (ho : s.operators ≤ maxOperators) :
    ∃ piece s', span.slice? line = some piece ∧ Session.read piece = .ok s' ∧
      s'.mapSpans (Span.forward span.start) = s := by
  obtain ⟨t, u, ht, hu, rfl⟩ := hhull
  obtain ⟨before, piece, behind, hchars, hbefore, hpiece, hlexes⟩ :=
    @Lexes.slice _ _ pre us (post ++ [q]) t u ht hu (by simp) (by simpa using hline)
  refine ⟨String.ofList piece, s.mapSpans (Span.back t.span.start), ?_, ?_, ?_⟩
  · refine Span.slice?_eq_some_iff.2 ⟨before, behind, ?_, ?_, ?_⟩
    · rw [hchars, String.toList_ofList]
    · rw [← hbefore, Nat.zero_add]
    · rw [byteLength_append, String.toList_ofList, ← hpiece, ← hbefore, Nat.zero_add]
  · have hmoved := hlexes.back (Nat.le_refl _)
    rw [Nat.sub_self, List.map_append] at hmoved
    rw [Session.read_eq_ok_iff, String.toList_ofList]
    refine ⟨_, _, hmoved, (hs _).mapSpans (Span.back_merge _), ?_, ?_⟩
    · rwa [Statement.nesting_mapSpans]
    · rwa [Statement.operators_mapSpans]
  · have hbounds : ∀ x ∈ us ++ [finishAt u.span.stop],
        t.span.start ≤ x.span.start ∧ t.span.start ≤ x.span.stop := by
      intro x hx
      have hx' := hlexes.le_start x hx
      omega
    refine (hs (finishAt u.span.stop)).forward_back (hbounds _ (by simp)) ?_
    exact fun x hx => hbounds x (by simp [hx])

/-- An expression of the tree of a line is read again from its span. -/
theorem read_slice_node {line : String} {pre us : List Token} {q : Token} {e n : Expr}
    (hline : Lexes line.toList 0 (pre ++ us ++ [q])) (he : Expression Operand us e)
    (hlevels : e.nesting ≤ maxLevels) (hoperators : e.operators ≤ maxOperators)
    (hn : n ∈ e.nodes) :
    ∃ piece m, n.span.slice? line = some piece ∧ Session.read piece = .ok (.expr m) ∧
      m.mapSpans (Span.forward n.span.start) = n := by
  obtain ⟨pre', mid, post, rfl, hmid⟩ := he.consecutive n hn
  obtain ⟨hnesting, hops⟩ := Expr.le_of_mem_nodes hn
  rw [← List.append_assoc] at hline
  have hrow : mid.Pairwise Precedes :=
    hline.pairwise.sublist (List.IsInfix.sublist ⟨pre ++ pre', post ++ [q], by simp⟩)
  obtain ⟨piece, s', hslice, hread, hmoved⟩ := read_slice hline (hmid.hull hrow)
    (fun _ => .expr hmid) (Nat.le_trans hnesting hlevels) (Nat.le_trans hops hoperators)
  cases s' with
  | blank => simp [Statement.mapSpans] at hmoved
  | assign => simp [Statement.mapSpans] at hmoved
  | expr m =>
    refine ⟨piece, m, hslice, hread, ?_⟩
    simpa [Statement.mapSpans] using hmoved

/-- The span of a blank statement is empty, and nothing at all is a blank line. -/
theorem read_slice_blank {line : String} {q : Token} (hline : Lexes line.toList 0 [q]) :
    ∃ piece s', (Statement.blank q.span).span.slice? line = some piece ∧
      Session.read piece = .ok s' ∧
      s'.mapSpans (Span.forward (Statement.blank q.span).span.start) = .blank q.span := by
  obtain rfl : q = finishAt (byteLength line.toList) := by
    obtain ⟨body, hrow, -⟩ := hline.exists_finish
    simpa using congrArg List.getLast? hrow
  refine ⟨"", .blank (Span.point 0), ?_, ?_, ?_⟩
  · exact Span.slice?_eq_some_iff.2 ⟨line.toList, [], by simp, rfl, by simp; rfl⟩
  · refine Session.read_eq_ok_iff.2 ⟨[], finishAt 0, ?_, .blank, Nat.zero_le _, Nat.zero_le _⟩
    exact @Lexes.finish [] 0 (by simp [Blank])
  · simp [Statement.mapSpans, Span.forward, Span.point, Statement.span, finishAt]

/-- The span of every expression in the tree of a line, and of the statement itself, cuts out of the
line a text that reads as the expression, or the statement, with its spans counted from the start of
the cut. -/
theorem read_slice_span {line : String} {s : Statement} (h : Session.read line = .ok s) :
    (∀ n ∈ s.nodes, ∃ piece m, n.span.slice? line = some piece ∧
      Session.read piece = .ok (.expr m) ∧ m.mapSpans (Span.forward n.span.start) = n) ∧
    ∃ piece s', s.span.slice? line = some piece ∧ Session.read piece = .ok s' ∧
      s'.mapSpans (Span.forward s.span.start) = s := by
  obtain ⟨ts, q, hline, hs, hlevels, hoperators⟩ := Session.read_eq_ok_iff.1 h
  have hrow : ts.Pairwise Precedes := (List.pairwise_append.1 hline.pairwise).1
  cases hs with
  | blank => exact ⟨by simp [Statement.nodes], read_slice_blank hline⟩
  | expr he =>
    refine ⟨fun n hn => ?_, ?_⟩
    · exact @read_slice_node line [] _ q _ n hline he hlevels hoperators hn
    · exact @read_slice line [] ts [] q _ _ (by simpa using hline) (he.hull hrow)
        (fun _ => .expr he) hlevels hoperators
  | @assign t a us name e ht ha he =>
    refine ⟨fun n hn => ?_, ?_⟩
    · exact @read_slice_node line [t, a] us q e n hline he hlevels hoperators hn
    · have hus : us.Pairwise Precedes :=
        (List.pairwise_cons.1 (List.pairwise_cons.1 hrow).2).2
      exact @read_slice line [] (t :: a :: us) [] q _ _ (by simpa using hline)
        (.merge [a] (.token t) (he.hull hus) hrow) (fun _ => .assign ht ha he) hlevels hoperators

/-- A text joined to a name. The text takes a byte more than it has characters. -/
def accentedLine : String :=
  String.ofList ['"', 'é', '"', ' ', '+', ' ', 'x']

/-- The name is cut out of the line by its bytes, not by its characters. -/
theorem read_slice_accentedLine :
    Session.read accentedLine =
      .ok (.expr (.binary .add (.literal (.text "é") ⟨0, 4⟩) (.name "x" ⟨7, 8⟩) ⟨0, 8⟩)) ∧
    ∃ piece m, (⟨7, 8⟩ : Span).slice? accentedLine = some piece ∧
      Session.read piece = .ok (.expr m) ∧ m.mapSpans (Span.forward 7) = .name "x" ⟨7, 8⟩ := by
  have hname : Lexes ['x'] 7 [ofWord (.name "x") ['x'] 7, finishAt 8] :=
    .cons (@Word.word 'x' [] rfl (by simp)) (Kind.endsBefore_nil _)
      (@Lexes.finish [] 8 (by simp [Blank]))
  have hplus : Lexes ['+', ' ', 'x'] 5
      [ofWord .plus ['+'] 5, ofWord (.name "x") ['x'] 7, finishAt 8] :=
    @Lexes.cons ['+'] [' ', 'x'] 5 .plus _ (.symbol (by decide)) trivial (hname.blank rfl)
  have htext : Quotation ['é', '"'] ['é'] := .plain (by decide) (by decide) .close
  have hline : Lexes accentedLine.toList 0
      ([ofWord (.text "é") ['"', 'é', '"'] 0, ofWord .plus ['+'] 5, ofWord (.name "x") ['x'] 7] ++
        [finishAt 8]) := by
    rw [accentedLine, String.toList_ofList]
    exact @Lexes.cons ['"', 'é', '"'] _ 0 (.text "é") _ (.text htext) trivial (hplus.blank rfl)
  have hread : Session.read accentedLine =
      .ok (.expr (.binary .add (.literal (.text "é") ⟨0, 4⟩) (.name "x" ⟨7, 8⟩) ⟨0, 8⟩)) := by
    have hleft : Operand [ofWord (.text "é") ['"', 'é', '"'] 0] (.literal (.text "é") ⟨0, 4⟩) :=
      .literal (.text "é")
    have hright : Operand [ofWord (.name "x") ['x'] 7] (.name "x" ⟨7, 8⟩) := .name rfl
    refine Session.read_eq_ok_iff.2 ⟨_, _, hline, .expr (.one ?_), by decide, by decide⟩
    exact @Chain.next .sum _ [_] [_] (ofWord .plus ['+'] 5) .add _ _ (Chain.first (.first hleft))
      rfl rfl (Chain.first hright)
  refine ⟨hread, (read_slice_span hread).1 (.name "x" ⟨7, 8⟩) ?_⟩
  simp [Statement.nodes, Expr.nodes, Expr.inner]

end Reckoner
