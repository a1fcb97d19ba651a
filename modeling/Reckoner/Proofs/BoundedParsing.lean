import Reckoner.Proofs.Parsing.Simulation

/-!
# Bounds of parsing

However the tokens are ended, and whatever stands behind an end, parsing comes to a halt, and what
it keeps and what it gives stays within bounds (`parse_bounded`).

The bound on trees joins two budgets. On every step from an expression to a part of it, the
nesting and the operators together become less: a construct takes its level from the nesting of
what is inside it, and a binary operator takes itself from the operators. So no path is longer
than both allow.

The bounds on the run follow from what holds along every run, and a call returns because the
parser that it follows does, on whichever level it was entered.
-/

set_option autoImplicit false

namespace Reckoner

/-! ## Paths in a tree -/

namespace Expr

/-- The expressions that an expression is made of. -/
def parts : Expr → List Expr
  | .literal _ _ => []
  | .list items _ => items
  | .name _ _ => []
  | .call _ _ arguments _ => arguments
  | .binary _ left right _ => [left, right]
  | .unary _ operand _ => [operand]
  | .paren e _ => [e]

/-- The expressions on a way from the root to a leaf. -/
inductive Path : Expr → List Expr → Prop
  | leaf {e : Expr} : e.parts = [] → Path e [e]
  | step {e part : Expr} {path : List Expr} : part ∈ e.parts → Path part path → Path e (e :: path)

theorem mem_nodesAll_of_mem {e : Expr} {es : List Expr} (h : e ∈ es) : e ∈ nodesAll es := by
  induction es with
  | nil => cases h
  | cons first more ih =>
    rcases List.mem_cons.1 h with rfl | h
    · exact List.mem_cons_self
    · exact List.mem_append_right _ (ih h)

/-- A part has less of nesting and operators together. -/
theorem measure_lt_of_mem_parts {e part : Expr} (h : part ∈ e.parts) :
    part.nesting + part.operators < e.nesting + e.operators := by
  cases e with
  | literal | name => cases h
  | list items | call _ _ items =>
    have hle := le_of_mem_nodesAll items (mem_nodesAll_of_mem h)
    simp only [nesting, operators]
    omega
  | binary op left right =>
    -- Both operands may nest as deep as the whole, so the operator makes the difference.
    simp only [parts, List.mem_cons, List.not_mem_nil, or_false] at h
    simp only [nesting, operators]
    rcases h with rfl | rfl <;> omega
  | unary op operand | paren operand =>
    obtain rfl := List.mem_singleton.1 h
    simp only [nesting, operators]
    omega

/-- No path is longer than the nesting and the operators allow. -/
theorem Path.length_le {e : Expr} {path : List Expr} (h : e.Path path) :
    path.length ≤ e.nesting + e.operators + 1 := by
  induction h with
  | leaf _ => exact Nat.le_add_left 1 _
  | @step e part path hpart _ ih =>
    have hlt := measure_lt_of_mem_parts hpart
    rw [List.length_cons]
    omega

end Expr

/-- The expression of a statement. -/
def Statement.tree? : Statement → Option Expr
  | .blank _ => none
  | .expr e => some e
  | .assign _ _ e => some e

/-- What is read keeps to both limits, on every row of tokens. -/
theorem limits_of_parse {tokens : List Token} {s : Statement} (h : parse tokens = .ok s) :
    s.nesting ≤ maxLevels ∧ s.operators ≤ maxOperators := by
  rw [← Parser.soleStatement_ofTokens] at h
  exact (Parser.soleStatement_eq_ok_iff.1 h).2

theorem path_length_of_parse {tokens : List Token} {s : Statement} {e : Expr} {path : List Expr}
    (h : parse tokens = .ok s) (he : s.tree? = some e) (hpath : e.Path path) :
    path.length ≤ maxLevels + maxOperators + 1 := by
  obtain ⟨hnesting, hoperators⟩ := limits_of_parse h
  have hlength := hpath.length_le
  cases s with
  | blank => cases he
  | expr e' | assign _ _ e' =>
    cases he
    simp only [Statement.nesting, Statement.operators] at hnesting hoperators
    omega

/-! ## Calls and their returns -/

namespace Machine

variable {row : List Token} {s : State}

/-- The stack that a call returns to. What stands inside a construct returns to the construct. -/
def State.call? (s : State) : Option (List Frame) :=
  match s.control with
  | .enter _ => some s.stack
  | .descend construct => some (.build construct :: s.stack)
  | _ => none

theorem levels_of_call {frames : List Frame} (h : s.call? = some frames) :
    levels frames = levels s.stack := by
  obtain ⟨position, depth, operators, control, stack⟩ := s
  cases control with
  | enter | descend =>
    obtain rfl := Option.some.inj h
    rfl
  | _ => cases h

/-- A run that follows a parser comes back to its stack. -/
theorem Returning.exists_returns {α : Type} {result : α → Result} {ends : Nat → α → Prop}
    {depth : Nat} {stack : List Frame} {c : Cursor} {x : Except ParseError (Parsed α c)}
    (h : Returning row result ends depth stack s x) :
    ∃ s', Reaches row s s' ∧ s'.Returns ∧ s'.stack = stack := by
  cases x with
  | error e =>
    obtain ⟨position, operators, hreaches⟩ := h
    exact ⟨_, hreaches, Or.inr ⟨e, rfl⟩, rfl⟩
  | ok r =>
    obtain ⟨position, operators, -, -, hreaches⟩ := h
    exact ⟨_, hreaches, Or.inl ⟨_, rfl⟩, rfl⟩

/-- Entered anywhere before the end and on any level, a call returns. -/
theorem enter_returns {c : Cursor} {position operators depth : Nat}
    (hat : At row c position operators) (hdepth : depth ≤ maxLevels) (task : Task)
    (stack : List Frame) :
    ∃ s', Reaches row ⟨position, depth, operators, .enter task, stack⟩ s' ∧ s'.Returns ∧
      s'.stack = stack := by
  -- So many levels may still be opened as the limit leaves.
  have hoperand : Runs row depth .operand (Parser.operandWithin (maxLevels - depth)) :=
    operandWithin_runs _ (Nat.sub_add_cancel hdepth)
  have hproduct := chain_runs (l := .product) (by simp) hoperand
  have hsum := chain_runs (l := .sum) (by simp) hproduct
  have hcomparison := comparison_runs hsum
  cases task with
  | layer l =>
    cases l with
    | comparison => exact (hcomparison stack hat).exists_returns
    | sum => exact (hsum stack hat).exists_returns
    | product => exact (hproduct stack hat).exists_returns
  | operand => exact (hoperand stack hat).exists_returns
  | items b =>
    have hitems : ReturningItems row [] depth stack
        ⟨position, depth, operators, .enter (.items b), stack⟩ _ :=
      (items_returning hcomparison hat []).head rfl
    exact hitems.exists_returns

/-- What is returned to a level is returned to the stack below it. -/
theorem level_returns {stack : List Frame} (hreturns : s.Returns) (hs : s.stack = .level :: stack) :
    ∃ s', step row s = some s' ∧ s'.Returns ∧ s'.stack = stack := by
  obtain ⟨position, depth, operators, control, stack'⟩ := s
  obtain rfl : stack' = .level :: stack := hs
  rcases hreturns with ⟨r, hr⟩ | ⟨e, he⟩
  · obtain rfl : control = .give r := hr
    exact ⟨_, rfl, Or.inl ⟨r, rfl⟩, rfl⟩
  · obtain rfl : control = .fail e := he
    exact ⟨_, rfl, Or.inr ⟨e, rfl⟩, rfl⟩

theorem descend_returns {c : Cursor} {position operators : Nat} (hat : At row c position operators)
    (depth : Nat) (construct : Construct) (stack : List Frame) :
    ∃ s', Reaches row ⟨position, depth, operators, .descend construct, stack⟩ s' ∧ s'.Returns ∧
      s'.stack = .build construct :: stack := by
  by_cases hlt : depth < maxLevels
  · obtain ⟨s₁, hreaches, hreturns, hstack⟩ :=
      enter_returns hat hlt construct.task (.level :: .build construct :: stack)
    obtain ⟨s₂, hlast, hreturns', hstack'⟩ := level_returns hreturns hstack
    exact ⟨s₂, .head (descend_step construct hlt) (hreaches.tail hlast), hreturns', hstack'⟩
  · exact ⟨_, .single (descend_step_full construct hlt), Or.inr ⟨_, rfl⟩, rfl⟩

/-- Every call returns, and whenever there is a return to its stack, the depth is what it was. -/
theorem call_returns {ts us : List Token} {q : Token} (hts : ∀ t ∈ ts, t.kind.isFinish = false)
    (hq : q.kind.isFinish = true) (hinv : Inv ts s) {frames : List Frame}
    (hcall : s.call? = some frames) :
    (∃ s', Reaches (ts ++ q :: us) s s' ∧ s'.Returns ∧ s'.stack = frames) ∧
      ∀ s', Reaches (ts ++ q :: us) s s' → s'.Returns → s'.stack = frames → s'.depth = s.depth := by
  constructor
  · have hat : At (ts ++ q :: us) ⟨ts.drop s.position, q, maxOperators - s.operators⟩ s.position
        s.operators := at_of_le hts hq hinv.position hinv.operators
    obtain ⟨position, depth, operators, control, stack⟩ := s
    cases control with
    | enter task =>
      obtain rfl := Option.some.inj hcall
      exact enter_returns hat hinv.limit task stack
    | descend construct =>
      obtain rfl := Option.some.inj hcall
      exact descend_returns hat depth construct stack
    | _ => cases hcall
  · intro s' hreaches _ hstack
    calc
      s'.depth = levels s'.stack := (reaches_inv hq hinv hreaches).depth
      _ = levels s.stack := by rw [hstack, levels_of_call hcall]
      _ = s.depth := hinv.depth.symm

end Machine

/-! ## Every row of tokens -/

open Machine in
/-- On every row of tokens parsing comes to a halt. No path in a tree that it gives has more than
321 expressions. All along the run the position stays among the tokens and never goes back, no
more than 64 levels are open and no more than 256 operators are counted, and every call returns
with as many levels open as there were when it was made. -/
theorem parse_bounded (tokens : List Token) :
    (∃ s, Reaches (ended tokens) start s ∧ s.control = .halt (parse tokens)) ∧
      (∀ statement e path, parse tokens = .ok statement → statement.tree? = some e →
        e.Path path → path.length ≤ 321) ∧
      ∀ s, Reaches (ended tokens) start s →
        s.position < (ended tokens).length ∧ s.depth ≤ 64 ∧ s.operators ≤ 256 ∧
          (∀ s', Reaches (ended tokens) s s' → s.position ≤ s'.position) ∧
          ∀ frames, s.call? = some frames →
            (∃ s', Reaches (ended tokens) s s' ∧ s'.Returns ∧ s'.stack = frames) ∧
            ∀ s', Reaches (ended tokens) s s' → s'.Returns → s'.stack = frames →
              s'.depth = s.depth := by
  refine ⟨halts_with_parse tokens, ?_, ?_⟩
  · intro statement e path hparse he hpath
    exact path_length_of_parse hparse he hpath
  · intro s hreaches
    -- The run goes no further than the first end, which is among the tokens.
    obtain ⟨ts, q, us, hrow, hts, hq, -⟩ := ended_split tokens
    rw [hrow] at hreaches ⊢
    have hinv := reaches_inv hq (start_inv ts) hreaches
    refine ⟨?_, hinv.limit, hinv.operators, fun s' => position_le_of_reaches, ?_⟩
    · have hposition := hinv.position
      rw [List.length_append, List.length_cons]
      omega
    · intro frames hcall
      exact call_returns hts hq hinv hcall

/-- The tokens of `not -x`, an end, and a comma behind it. -/
def commaBehindEnd : List Token :=
  [⟨.not, "not", ⟨0, 3⟩⟩, ⟨.minus, "-", ⟨4, 5⟩⟩, ⟨.name "x", "x", ⟨5, 6⟩⟩, Token.finishAt 6,
    ⟨.comma, ",", ⟨7, 8⟩⟩]

/-- The path in the tree of `not -x`. -/
def signedPath : List Expr :=
  [.unary .not (.unary .neg (.name "x" ⟨5, 6⟩) ⟨4, 6⟩) ⟨0, 6⟩,
    .unary .neg (.name "x" ⟨5, 6⟩) ⟨4, 6⟩, .name "x" ⟨5, 6⟩]

open Machine in
/-- In `not -x` what stands behind the first operator is read one level down, and no level is open
when it is returned. -/
theorem parse_bounded_commaBehindEnd :
    (∃ e, parse commaBehindEnd = .ok (.expr e) ∧ e.Path signedPath ∧ signedPath.length ≤ 321) ∧
      ∃ stack s, Reaches (ended commaBehindEnd) start
          ⟨1, 0, 0, .descend (.unary .not ⟨0, 3⟩), stack⟩ ∧
        Reaches (ended commaBehindEnd) ⟨1, 0, 0, .descend (.unary .not ⟨0, 3⟩), stack⟩ s ∧
        s.Returns ∧ s.stack = .build (.unary .not ⟨0, 3⟩) :: stack ∧ s.depth = 0 := by
  obtain ⟨-, hpaths, hrun⟩ := parse_bounded commaBehindEnd
  have hparse : parse commaBehindEnd = .ok (.expr (signedPath.get ⟨0, by decide⟩)) := by
    cbv
  have hpath : (signedPath.get ⟨0, by decide⟩).Path signedPath :=
    .step List.mem_cons_self (.step List.mem_cons_self (.leaf rfl))
  have hreaches : Reaches (ended commaBehindEnd) start
      ⟨1, 0, 0, .descend (.unary .not ⟨0, 3⟩),
        [.first .product, .first .sum, .first .comparison, .expr]⟩ :=
    .head rfl (.head rfl (.head rfl (.head rfl (.single rfl))))
  obtain ⟨-, -, -, -, hcalls⟩ := hrun _ hreaches
  obtain ⟨⟨s, hs, hreturns, hstack⟩, hdepth⟩ := hcalls _ rfl
  exact ⟨⟨_, hparse, hpath, hpaths _ _ _ hparse rfl hpath⟩, _, s, hreaches, hs, hreturns, hstack,
    hdepth s hs hreturns hstack⟩

end Reckoner
