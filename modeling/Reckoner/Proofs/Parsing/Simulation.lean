import Mathlib.Data.List.TakeWhile
import Reckoner.Proofs.Parsing.Failure
import Reckoner.Proofs.Parsing.Machine
import Reckoner.Proofs.Recognition

/-!
# The machine reads what the parser reads

`At row c position operators` says that the machine, at the position in the row and with so many
operators counted, has before it what the parser has at the cursor `c`.

`Returning` compares a run with an outcome of a parser: the run comes back to its stack at its
depth, with the result or with the fault of the outcome, and has before it what the parser has left.
Each way of building a parser from others is followed by the machine (`Runs`), whatever stands on
the stack: operator by operator along chains, item by item up to a bracket, and level by level into
constructs. So the whole run ends with what `parse` gives (`halts_with_parse`).
-/

set_option autoImplicit false

namespace Reckoner

namespace Machine

/-! ## Positions and cursors -/

/-- The machine has before it what the parser has at the cursor. -/
structure At (row : List Token) (c : Cursor) (position operators : Nat) : Prop where
  row : ∃ before behind, row = before ++ (c.rest ++ c.finish :: behind) ∧ before.length = position
  rest : ∀ t ∈ c.rest, t.kind.isFinish = false
  finish : c.finish.kind.isFinish = true
  operators : operators + c.operators = maxOperators

/-- At every position up to the first end there is a cursor. -/
theorem at_of_le {ts us : List Token} {q : Token} (hts : ∀ t ∈ ts, t.kind.isFinish = false)
    (hq : q.kind.isFinish = true) {position operators : Nat} (hposition : position ≤ ts.length)
    (hoperators : operators ≤ maxOperators) :
    At (ts ++ q :: us) ⟨ts.drop position, q, maxOperators - operators⟩ position operators where
  row := by
    refine ⟨ts.take position, us, ?_, List.length_take_of_le hposition⟩
    rw [← List.append_assoc, List.take_append_drop]
  rest := fun t ht => hts t (List.mem_of_mem_drop ht)
  finish := hq
  operators := Nat.add_sub_cancel' hoperators

namespace At

variable {row : List Token} {c d : Cursor} {position operators : Nat}

theorem current (h : At row c position operators) : (view row position).current = c.current := by
  obtain ⟨before, behind, rfl, rfl⟩ := h.row
  obtain ⟨rest, finish, n⟩ := c
  cases rest with
  | nil => exact view_current before behind finish
  | cons t rest => exact view_current before (rest ++ finish :: behind) t

theorem isFinish_iff (h : At row c position operators) :
    (view row position).current.kind.isFinish = true ↔ c.rest = [] := by
  rw [h.current]
  obtain ⟨rest, finish, n⟩ := c
  cases rest with
  | nil => exact iff_of_true h.finish rfl
  | cons t rest =>
    have ht : t.kind.isFinish = false := h.rest t List.mem_cons_self
    exact iff_of_false (fun hfinish => by simp [Cursor.current, ht] at hfinish) (by simp)

theorem current_of_head (h : At row c position operators) {t : Token}
    (ht : c.rest.head? = some t) : (view row position).current = t := by
  rw [h.current]
  exact Cursor.current_of_head ht

/-- What holds of the kind of the end and of the kind of the next token, if there is one, holds of
the kind in view. -/
theorem kind_of_head (h : At row c position operators) {P : Token.Kind → Prop} (hend : P .finish)
    (hhead : ∀ t ∈ c.rest.head?, P t.kind) : P (view row position).current.kind := by
  rw [h.current]
  obtain ⟨rest, finish, n⟩ := c
  cases rest with
  | nil =>
    -- The end is the one token of its kind.
    obtain ⟨kind, text, span⟩ := finish
    cases kind with
    | finish => exact hend
    | _ => cases h.finish
  | cons t rest => exact hhead t rfl

/-- Past a token, the machine has before it what the parser has, and the token just behind it. -/
theorem pass (h : At row c position operators) {t : Token} {cost : Nat}
    (hpass : c.Passes [t] cost d) :
    (view row position).current = t ∧ At row d (view row position).next (operators + cost) ∧
      (view row (view row position).next).previous = t.span := by
  obtain ⟨before, behind, rfl, rfl⟩ := h.row
  have hrow : before ++ (c.rest ++ c.finish :: behind) =
      before ++ t :: (d.rest ++ d.finish :: behind) := by
    rw [hpass.rest, hpass.finish]
    rfl
  have hnext := view_next before (d.rest ++ d.finish :: behind) t (by simp)
  rw [hrow, hnext]
  refine ⟨view_current _ _ t, ⟨?_, ?_, ?_, ?_⟩, view_previous _ _ t⟩
  · exact ⟨before ++ [t], behind, by simp, by simp⟩
  · intro u hu
    apply h.rest
    rw [hpass.rest]
    exact List.mem_append_right _ hu
  · rw [← hpass.finish]
    exact h.finish
  · rw [Nat.add_assoc, ← hpass.operators]
    exact h.operators

/-- The kind of the next token is in view. -/
theorem ahead (h : At row c position operators) {t : Token} (hpass : c.Passes [t] 0 d) :
    (view row position).ahead = d.current.kind := by
  obtain ⟨before, behind, rfl, rfl⟩ := h.row
  obtain rfl := hpass.eq_of_token
  obtain ⟨rest, finish, n⟩ := d
  cases rest with
  | nil => exact view_ahead before behind t finish
  | cons u rest => exact view_ahead before (rest ++ finish :: behind) t u

/-- What does not begin as an assignment does not look like one, whatever stands behind the end. -/
theorem ahead_ne_assign (h : At row c position operators) {n : String}
    (hname : (view row position).current.kind = .name n)
    (hno : ∀ t a us s, c.rest = t :: a :: us → t.kind = .name s → a.kind ≠ .assign) :
    (view row position).ahead ≠ .assign := by
  intro hahead
  have hrest : c.rest ≠ [] := by
    intro hnil
    have hfinish := h.isFinish_iff.2 hnil
    rw [hname] at hfinish
    cases hfinish
  obtain ⟨t, rest, hc⟩ := List.exists_cons_of_ne_nil hrest
  have ht : (view row position).current = t := h.current_of_head (by rw [hc]; rfl)
  rw [ht] at hname
  have hpass : c.Passes [t] 0 ⟨rest, c.finish, c.operators⟩ := ⟨hc, rfl, (Nat.zero_add _).symm⟩
  rw [h.ahead hpass] at hahead
  cases rest with
  | nil =>
    have hfinish := h.finish
    rw [show c.finish.kind = .assign from hahead] at hfinish
    cases hfinish
  | cons a us => exact hno t a us n hc hname hahead

end At

/-! ## Runs that return -/

section Returning

variable {α β : Type} {row : List Token} {result : α → Result} {ends : Nat → α → Prop}
  {result' : β → Result} {ends' : Nat → β → Prop} {depth : Nat} {stack : List Frame} {s s' : State}
  {c d : Cursor}

/-- The run comes back to the stack and the depth with the outcome of a parser, and has before it
what the parser has left. -/
def Returning (row : List Token) (result : α → Result) (ends : Nat → α → Prop) (depth : Nat)
    (stack : List Frame) (s : State) : Except ParseError (Parsed α c) → Prop
  | .ok r => ∃ position operators, At row r.next position operators ∧ ends position r.value ∧
      Reaches row s ⟨position, depth, operators, .give (result r.value), stack⟩
  | .error e => ∃ position operators, Reaches row s ⟨position, depth, operators, .fail e, stack⟩

theorem Returning.of_reaches {x : Except ParseError (Parsed α c)} (hreaches : Reaches row s s')
    (h : Returning row result ends depth stack s' x) :
    Returning row result ends depth stack s x := by
  cases x with
  | error e =>
    obtain ⟨position, operators, hreaches'⟩ := h
    exact ⟨position, operators, hreaches.trans hreaches'⟩
  | ok r =>
    obtain ⟨position, operators, hat, hends, hreaches'⟩ := h
    exact ⟨position, operators, hat, hends, hreaches.trans hreaches'⟩

theorem Returning.head {x : Except ParseError (Parsed α c)} (hstep : step row s = some s')
    (h : Returning row result ends depth stack s' x) :
    Returning row result ends depth stack s x :=
  h.of_reaches (.single hstep)

/-- A call returns to its frame: a fault is handed on, and with a result the frame decides. -/
theorem Returning.bind {x : Except ParseError (Parsed α c)} {y : Except ParseError (Parsed β d)}
    {frame : Frame} (hframe : frame ≠ .level)
    (h : Returning row result ends depth (frame :: stack) s x)
    (herror : ∀ e, x = .error e → y = .error e)
    (hok : ∀ r position operators, x = .ok r → At row r.next position operators →
      ends position r.value → Returning row result' ends' depth stack
        ⟨position, depth, operators, .give (result r.value), frame :: stack⟩ y) :
    Returning row result' ends' depth stack s y := by
  cases x with
  | error e =>
    obtain ⟨position, operators, hreaches⟩ := h
    rw [herror e rfl]
    refine ⟨position, operators, hreaches.tail ?_⟩
    cases frame with
    | level => exact absurd rfl hframe
    | _ => rfl
  | ok r =>
    obtain ⟨position, operators, hat, hends, hreaches⟩ := h
    exact (hok r position operators rfl hat hends).of_reaches hreaches

/-- A call returns to the level that was opened for it, and the level is left. -/
theorem Returning.level {x : Except ParseError (Parsed α c)}
    (h : Returning row result ends (depth + 1) (.level :: stack) s x) :
    Returning row result ends depth stack s x := by
  cases x with
  | error e =>
    obtain ⟨position, operators, hreaches⟩ := h
    exact ⟨position, operators, hreaches.tail rfl⟩
  | ok r =>
    obtain ⟨position, operators, hat, hends, hreaches⟩ := h
    exact ⟨position, operators, hat, hends, hreaches.tail rfl⟩

end Returning

/-- The run comes back with the tree that the parser gives. -/
abbrev ReturningTree {c : Cursor} (row : List Token) (depth : Nat) (stack : List Frame) (s : State)
    (x : Except ParseError (Parsed Expr c)) : Prop :=
  Returning row .tree (fun _ _ => True) depth stack s x

/-- A call that reads a tree: entered anywhere at this depth, it returns what the parser gives. -/
def Runs (row : List Token) (depth : Nat) (task : Task) (p : Parser Expr) : Prop :=
  ∀ ⦃c : Cursor⦄ ⦃position operators : Nat⦄ (stack : List Frame), At row c position operators →
    ReturningTree row depth stack ⟨position, depth, operators, .enter task, stack⟩ (p c)

/-! ## Operators -/

section Operators

variable {row : List Token} {depth position operators : Nat} {stack : List Frame} {p : Parser Expr}
  {l : Layer} {c : Cursor}

/-- Where an operator may follow, the run comes to a fault, goes on to give what it has in hand, or
comes back with the operand behind the operator. -/
def Proceeding (row : List Token) (depth : Nat) (stack : List Frame) (l : Layer) (left : Expr)
    (s : State) : Except ParseError (Option (Parsed (BinaryOp × Expr) c)) → Prop
  | .error e => ∃ position operators, Reaches row s ⟨position, depth, operators, .fail e, stack⟩
  | .ok none => ∃ position operators, At row c position operators ∧
      Reaches row s ⟨position, depth, operators, .give (.tree left), stack⟩
  | .ok (some q) => ∃ position operators, At row q.next position operators ∧ Reaches row s
      ⟨position, depth, operators, .give (.tree q.value.2), .next l left q.value.1 :: stack⟩

/-- The machine proceeds as the parser does. -/
theorem onward_proceeding (left : Expr) (stack : List Frame)
    (hp : Runs row depth (operandTask l) p) (hat : At row c position operators) (control : Control)
    (stack' : List Frame) :
    Proceeding row depth stack l left
      (onward (view row position) ⟨position, depth, operators, control, stack'⟩ l left stack)
      (Parser.rightOperand? (operator? l) p c) := by
  rcases Parser.rightOperand?_cases (operator? l) p c with
    ⟨hno, hright⟩ | ⟨t, op, ht, hop, hright⟩
  · -- no operator of the layer
    have hoperator : operator? l (view row position).current.kind = none :=
      hat.kind_of_head (P := fun k => operator? l k = none) (by cases l <;> rfl) hno
    rw [hright]
    simp only [onward, hoperator]
    exact ⟨position, operators, hat, .refl⟩
  · have hcurrent := hat.current_of_head ht
    rcases hright with ⟨hzero, hright⟩ | ⟨k, hck, hright⟩
    · -- an operator too many
      have hfull : ¬ operators < maxOperators := by
        have hsum := hat.operators
        omega
      rw [hright]
      simp only [onward, hcurrent, hop, if_neg hfull]
      exact ⟨position, operators, .refl⟩
    · -- the operand behind the operator decides
      have hroom : operators < maxOperators := by
        have hsum := hat.operators
        have hpaid := hck.operators
        omega
      obtain ⟨-, hatk, -⟩ := hat.pass hck
      have hoperand := hp (.next l left op :: stack) hatk
      simp only [onward, hcurrent, hop, if_pos hroom]
      rcases hright with ⟨e, he, hright⟩ | ⟨r, q, hr, hright, hvalue, hnext⟩
      · rw [he] at hoperand
        obtain ⟨position', operators', hreaches⟩ := hoperand
        rw [hright]
        exact ⟨position', operators', hreaches.tail rfl⟩
      · rw [hr] at hoperand
        obtain ⟨position', operators', hatr, -, hreaches⟩ := hoperand
        rw [hright]
        refine ⟨position', operators', hnext ▸ hatr, ?_⟩
        rw [hvalue]
        exact hreaches

/-- The loop of a chain. -/
theorem chainFrom_returning (hl : l ≠ .comparison) (hp : Runs row depth (operandTask l) p)
    {left : Parsed Expr c} (hat : At row left.next position operators) (control : Control)
    (stack' : List Frame) :
    ReturningTree row depth stack
      (onward (view row position) ⟨position, depth, operators, control, stack'⟩ l left.value stack)
      (Parser.chainFrom (operator? l) p left) := by
  fun_induction Parser.chainFrom (operator? l) p left
    generalizing position operators control stack' with
  | case1 left e he =>
    have hproceeding := onward_proceeding left.value stack hp hat control stack'
    rw [he] at hproceeding
    exact hproceeding
  | case2 left hnone =>
    have hproceeding := onward_proceeding left.value stack hp hat control stack'
    rw [hnone] at hproceeding
    obtain ⟨position', operators', hat', hreaches⟩ := hproceeding
    exact ⟨position', operators', hat', trivial, hreaches⟩
  | case3 left q hq hlt ih =>
    have hproceeding := onward_proceeding left.value stack hp hat control stack'
    rw [hq] at hproceeding
    obtain ⟨position', operators', hat', hreaches⟩ := hproceeding
    -- The operand is joined to what was in hand, and the loop goes on.
    refine Returning.of_reaches (hreaches.tail ?_) (ih hat' (.give (.tree q.value.2))
      (.next l left.value q.value.1 :: stack))
    cases l with
    | comparison => exact absurd rfl hl
    | sum | product => rfl

theorem chain_runs (hl : l ≠ .comparison) (hp : Runs row depth (operandTask l) p) :
    Runs row depth (.layer l) (Parser.chain (operator? l) p) := by
  intro c position operators stack hat
  have hfirst := (hp (.first l :: stack) hat).head
    (s := ⟨position, depth, operators, .enter (.layer l), stack⟩) rfl
  apply hfirst.bind (by simp)
  · intro e he
    simp only [Parser.chain, he]
  · intro left position' operators' hleft hat' _
    simp only [Parser.chain, hleft]
    exact (chainFrom_returning hl hp hat' _ _).head rfl

/-- Unlike a chain, a comparison is over behind its second operand. -/
theorem comparison_runs (hp : Runs row depth (.layer .sum) p) :
    Runs row depth (.layer .comparison) (Parser.comparison p) := by
  intro c position operators stack hat
  have hfirst := (hp (.first .comparison :: stack) hat).head
    (s := ⟨position, depth, operators, .enter (.layer .comparison), stack⟩) rfl
  apply hfirst.bind (by simp)
  · intro e he
    simp only [Parser.comparison, he]
  · intro left position' operators' hleft hat' _
    have hproceeding := onward_proceeding (l := .comparison) left.value stack hp hat'
      (.give (.tree left.value)) (.first .comparison :: stack)
    simp only [Parser.comparison, hleft]
    apply Returning.head rfl
    change Proceeding row depth stack .comparison left.value _
      (Parser.rightOperand? Parser.comparison? p left.next) at hproceeding
    cases hright : Parser.rightOperand? Parser.comparison? p left.next with
    | error e =>
      rw [hright] at hproceeding
      exact hproceeding
    | ok right =>
      rw [hright] at hproceeding
      cases right with
      | none =>
        obtain ⟨position'', operators'', hat'', hreaches⟩ := hproceeding
        exact ⟨position'', operators'', hat'', trivial, hreaches⟩
      | some q =>
        obtain ⟨position'', operators'', hat'', hreaches⟩ := hproceeding
        exact ⟨position'', operators'', hat'', trivial, hreaches.tail rfl⟩

/-- Operands that are followed are followed through the three layers of operators. -/
theorem expressionOf_runs (hp : Runs row depth .operand p) :
    Runs row depth (.layer .comparison) (Parser.expressionOf p) :=
  comparison_runs (chain_runs (l := .sum) (by simp) (chain_runs (l := .product) (by simp) hp))

end Operators

/-! ## Brackets -/

section Brackets

variable {row : List Token} {depth position operators : Nat} {stack : List Frame} {c : Cursor}
  {b : Bracket} {item : Parser Expr} {done : List Expr} {e : Expr}

/-- The closing bracket that the parser passes is passed. -/
theorem close_of_ok (hat : At row c position operators) {q : Parsed Span c}
    (hq : Parser.closing b c = .ok q) :
    ∃ position', At row q.next position' operators ∧ (view row position').previous = q.value ∧
      ∀ depth control' stack' control stack rest, close (view row position)
        ⟨position, depth, operators, control', stack'⟩ b control stack rest =
          ⟨position', depth, operators, control, stack⟩ := by
  obtain ⟨t, hpass, ht, hvalue⟩ := Parser.token_of_closing hq
  obtain ⟨hcurrent, hatq, hprevious⟩ := hat.pass hpass
  refine ⟨_, hatq, hprevious.trans hvalue.symm, ?_⟩
  intro depth control' stack' control stack rest
  simp only [close, hcurrent, if_pos ht]
  rfl

/-- The token that the parser blames in place of a closing bracket is blamed. -/
theorem close_of_error (hat : At row c position operators) {e : ParseError}
    (he : Parser.closing b c = .error e) (depth : Nat) (control' : Control)
    (stack' : List Frame) (control : Control) (stack rest : List Frame) :
    close (view row position) ⟨position, depth, operators, control', stack'⟩ b control stack rest =
      ⟨position, depth, operators, .fail e, rest⟩ := by
  rcases Parser.closing_cases b c with ⟨t, d, q, -, -, hq, -⟩ | ⟨hno, hblamed⟩
  · rw [he] at hq
    cases hq
  · rw [he] at hblamed
    cases hblamed
    have hkind := hat.kind_of_head (P := fun k => k ≠ .closing b) (by simp) hno
    simp only [close, if_neg hkind]
    rw [hat.current]
    rfl

/-- Where a bracket closes the items, or nothing is left, no item is read. -/
theorem collect_closed (h : (view row position).current.kind = .closing b ∨
    (view row position).current.kind.isFinish = true) :
    step row ⟨position, depth, operators, .collect b done, stack⟩ =
      some (close (view row position) ⟨position, depth, operators, .collect b done, stack⟩ b
        (.give (.trees done)) stack stack) := by
  simp only [step, move, collect, if_pos h]

/-- Anywhere else one is. -/
theorem collect_open (hat : At row c position operators) {unclosed : ParseError}
    (hclosing : Parser.closing b c = .error unclosed) (hrest : ¬ c.rest.isEmpty = true) :
    step row ⟨position, depth, operators, .collect b done, stack⟩ =
      some ⟨position, depth, operators, .enter (.layer .comparison), .item b done :: stack⟩ := by
  have hkind : ¬ ((view row position).current.kind = .closing b ∨
      (view row position).current.kind.isFinish = true) := by
    rintro (hkind | hfinish)
    · rcases Parser.closing_cases b c with ⟨t, d, q, -, -, hq, -⟩ | ⟨hno, -⟩
      · simp [hclosing] at hq
      · exact hat.kind_of_head (P := fun k => k ≠ .closing b) (by simp) hno hkind
    · exact hrest (List.isEmpty_iff.2 (hat.isFinish_iff.1 hfinish))
  simp only [step, move, collect, if_neg hkind]
  rfl

/-- An item that the parser reads is read, and the machine comes back with it. -/
theorem collect_reaches (hitem : Runs row depth (.layer .comparison) item)
    (hat : At row c position operators) {unclosed : ParseError}
    (hclosing : Parser.closing b c = .error unclosed) (hrest : ¬ c.rest.isEmpty = true)
    {first : Parsed Expr c} (hfirst : item c = .ok first) :
    ∃ position' operators', At row first.next position' operators' ∧
      Reaches row ⟨position, depth, operators, .collect b done, stack⟩
        ⟨position', depth, operators', .give (.tree first.value), .item b done :: stack⟩ := by
  have hreturning := hitem (.item b done :: stack) hat
  rw [hfirst] at hreturning
  obtain ⟨position', operators', hat', -, hreaches⟩ := hreturning
  exact ⟨position', operators', hat', .head (collect_open hat hclosing hrest) hreaches⟩

/-- Behind an item without a comma, the items have to be closed. -/
theorem item_step (hat : At row c position operators) (hcomma : Parser.comma? c = none) :
    step row ⟨position, depth, operators, .give (.tree e), .item b done :: stack⟩ =
      some (close (view row position)
        ⟨position, depth, operators, .give (.tree e), .item b done :: stack⟩ b
        (.give (.trees (done ++ [e]))) stack stack) := by
  have hkind : (view row position).current.kind ≠ .comma := by
    rcases Parser.comma?_cases c with ⟨t, d, q, -, -, hq, -⟩ | ⟨hno, -⟩
    · simp [hcomma] at hq
    · exact hat.kind_of_head (P := fun k => k ≠ .comma) (by simp) hno
  simp only [step, move, resume, if_neg hkind]

/-- Behind an item and a comma, the machine goes on with the item in hand. -/
theorem comma_step (hat : At row c position operators) {q : Parsed Unit c}
    (hcomma : Parser.comma? c = some q) :
    ∃ position', At row q.next position' operators ∧
      step row ⟨position, depth, operators, .give (.tree e), .item b done :: stack⟩ =
        some ⟨position', depth, operators, .collect b (done ++ [e]), stack⟩ := by
  obtain ⟨t, hpass, ht⟩ := Parser.token_of_comma? hcomma
  obtain ⟨hcurrent, hatq, -⟩ := hat.pass hpass
  refine ⟨_, hatq, ?_⟩
  simp only [step, move, resume, hcurrent, if_pos ht]
  rfl

/-- The run comes back with the items that the parser gives, behind those that are in hand. The
bracket has just been passed. -/
abbrev ReturningItems {c : Cursor} (row : List Token) (done : List Expr) (depth : Nat)
    (stack : List Frame) (s : State) (x : Except ParseError (Parsed (List Expr × Span) c)) : Prop :=
  Returning row (fun x => .trees (done ++ x.1))
    (fun position x => (view row position).previous = x.2) depth stack s x

/-- Items are collected up to the closing bracket. -/
theorem items_returning (hitem : Runs row depth (.layer .comparison) item)
    (hat : At row c position operators) (done : List Expr) :
    ReturningItems row done depth stack ⟨position, depth, operators, .collect b done, stack⟩
      (Parser.items b item c) := by
  fun_induction Parser.items b item c generalizing position operators done with
  | case1 c q hq =>
    -- a closing bracket at once, or behind the last comma
    obtain ⟨t, hpass, ht, -⟩ := Parser.token_of_closing hq
    have hkind := (hat.pass hpass).1 ▸ ht
    obtain ⟨position', hatq, hprevious, hclosed⟩ := close_of_ok hat hq
    refine ⟨position', operators, hatq, hprevious, .single ?_⟩
    simp only [collect_closed (Or.inl hkind), hclosed, Parsed.map, List.append_nil]
  | case2 c e he hrest =>
    -- nothing is left
    have hfinish := hat.isFinish_iff.2 (List.isEmpty_iff.1 hrest)
    refine ⟨position, operators, .single ?_⟩
    rw [collect_closed (Or.inr hfinish), close_of_error hat he]
  | case3 c unclosed hclosing hrest e he =>
    -- a fault in an item
    have hreturning := hitem (.item b done :: stack) hat
    rw [he] at hreturning
    obtain ⟨position', operators', hreaches⟩ := hreturning
    exact ⟨position', operators', .head (collect_open hat hclosing hrest) (hreaches.tail rfl)⟩
  | case4 c unclosed hclosing hrest first hfirst hcomma e he =>
    -- an item and neither a comma nor the bracket
    obtain ⟨position', operators', hat', hreaches⟩ :=
      collect_reaches hitem hat hclosing hrest hfirst
    refine ⟨position', operators', hreaches.tail ?_⟩
    rw [item_step hat' hcomma, close_of_error hat' he]
  | case5 c unclosed hclosing hrest first hfirst hcomma q hq =>
    -- the last item and the bracket
    obtain ⟨position', operators', hat', hreaches⟩ :=
      collect_reaches hitem hat hclosing hrest hfirst
    obtain ⟨position'', hatq, hprevious, hclosed⟩ := close_of_ok hat' hq
    refine ⟨position'', operators', hatq, hprevious, hreaches.tail ?_⟩
    rw [item_step hat' hcomma, hclosed]
    rfl
  | case6 c unclosed hclosing hrest first hfirst comma hcomma _ e he ih =>
    -- a fault behind a comma
    obtain ⟨position', operators', hat', hreaches⟩ :=
      collect_reaches hitem hat hclosing hrest hfirst
    obtain ⟨position'', hat'', hstep⟩ := comma_step hat' hcomma
    have hmore := ih hat'' (done ++ [first.value])
    rw [he] at hmore
    exact hmore.of_reaches (hreaches.tail hstep)
  | case7 c unclosed hclosing hrest first hfirst comma hcomma _ more hmore ih =>
    -- an item, a comma and more items
    obtain ⟨position', operators', hat', hreaches⟩ :=
      collect_reaches hitem hat hclosing hrest hfirst
    obtain ⟨position'', hat'', hstep⟩ := comma_step hat' hcomma
    have hreturning := ih hat'' (done ++ [first.value])
    rw [hmore] at hreturning
    obtain ⟨position₃, operators₃, hat₃, hprevious, hlast⟩ := hreturning
    refine ⟨position₃, operators₃, hat₃, hprevious, (hreaches.tail hstep).trans ?_⟩
    -- The item stands last among those in hand and first among those to come.
    simp only [List.append_assoc] at hlast
    exact hlast

end Brackets

/-! ## Levels -/

section Levels

variable {α : Type} {row : List Token} {result : α → Result} {ends : Nat → α → Prop}
  {depth position operators : Nat} {stack : List Frame} {c d : Cursor} {p : Parser Expr}
  {inner : Option (Parser Expr)}

/-- The parser of the level below is followed, and there is one exactly if a level may be opened. -/
def Below (row : List Token) (depth : Nat) : Option (Parser Expr) → Prop
  | none => depth = maxLevels
  | some p => depth < maxLevels ∧ Runs row (depth + 1) .operand p

theorem descend_step (construct : Construct) (hlt : depth < maxLevels) :
    step row ⟨position, depth, operators, .descend construct, stack⟩ =
      some ⟨position, depth + 1, operators, .enter construct.task,
        .level :: .build construct :: stack⟩ := by
  simp only [step, move, descend, if_pos hlt]
  rfl

theorem descend_step_full (construct : Construct) (hfull : ¬ depth < maxLevels) :
    step row ⟨position, depth, operators, .descend construct, stack⟩ =
      some ⟨position, depth, operators, .fail ⟨.fewerLevels, (view row position).current⟩,
        .build construct :: stack⟩ := by
  simp only [step, move, descend, if_neg hfull]
  rfl

/-- A construct opens a level for what stands inside it, or complains that there are too many. -/
theorem descend_returning (construct : Construct) (hinner : Below row depth inner)
    {f : Parser Expr → Parser α} (hat : At row c position operators)
    (hinside : ∀ p, Runs row (depth + 1) .operand p → ∀ stack, Returning row result ends (depth + 1)
      stack ⟨position, depth + 1, operators, .enter construct.task, stack⟩ (f p c)) :
    Returning row result ends depth (.build construct :: stack)
      ⟨position, depth, operators, .descend construct, stack⟩ (Parser.nested (inner.map f) c) := by
  cases inner with
  | none =>
    have hfull : ¬ depth < maxLevels := Nat.not_lt.2 (Nat.le_of_eq hinner.symm)
    rw [Option.map_none, Parser.nested, ← hat.current]
    exact ⟨position, operators, .single (descend_step_full construct hfull)⟩
  | some p =>
    obtain ⟨hlt, hp⟩ := hinner
    exact Returning.head (descend_step construct hlt) (hinside p hp _).level

/-- With what stands inside it, a construct is built. -/
theorem built_returning (construct : Construct) {x : Except ParseError (Parsed α d)}
    {y : Except ParseError (Parsed Expr c)} {f : α → Expr} {s : State} (hwraps : Parser.Wraps f x y)
    (h : Returning row result ends depth (.build construct :: stack) s x)
    (hbuilt : ∀ position operators a, ends position a →
      step row ⟨position, depth, operators, .give (result a), .build construct :: stack⟩ =
        some ⟨position, depth, operators, .give (.tree (f a)), stack⟩) :
    ReturningTree row depth stack s y := by
  apply h.bind (by simp)
  · rintro e rfl
    exact hwraps.of_error
  · rintro r position operators rfl hat hends
    obtain ⟨q, rfl, hvalue, hnext⟩ := hwraps.of_ok
    refine ⟨position, operators, hnext ▸ hat, trivial, .single ?_⟩
    rw [hvalue]
    exact hbuilt position operators r.value hends

/-- Items and the bracket that closes them are read on the level that was opened for them. -/
theorem bracketed_returning (construct : Construct) (hinner : Below row depth inner)
    (hat : At row c position operators) {b : Bracket} (htask : construct.task = .items b) :
    ReturningItems row [] depth (.build construct :: stack)
      ⟨position, depth, operators, .descend construct, stack⟩
      (Parser.nested (inner.map fun p => Parser.items b (Parser.expressionOf p)) c) := by
  refine descend_returning construct hinner hat ?_
  intro p hp stack
  rw [htask]
  exact (items_returning (expressionOf_runs hp) hat []).head rfl

/-- Parentheses are closed outside the level that was opened for what stands in them. -/
theorem paren_returning (hinner : Below row depth inner) (hat : At row c position operators)
    {start : Span} {y : Except ParseError (Parsed Expr d)}
    (hwraps : Parser.Wraps (fun r => Expr.paren r.1 (start.merge r.2))
      (Parser.closed .round (Parser.nested (inner.map Parser.expressionOf)) c) y) :
    ReturningTree row depth stack
      ⟨position, depth, operators, .descend (.paren start), stack⟩ y := by
  have hinside : ReturningTree row depth (.build (.paren start) :: stack)
      ⟨position, depth, operators, .descend (.paren start), stack⟩
      (Parser.nested (inner.map Parser.expressionOf) c) :=
    descend_returning _ hinner hat fun p hp stack => expressionOf_runs hp stack hat
  apply hinside.bind (by simp)
  · intro e he
    simp only [Parser.closed, he] at hwraps
    exact hwraps.of_error
  · intro r position' operators' hr hatr _
    simp only [Parser.closed, hr] at hwraps
    cases hclosing : Parser.closing .round r.next with
    | error e =>
      rw [hclosing] at hwraps
      rw [hwraps.of_error]
      have hblamed := close_of_error hatr hclosing depth
      exact ⟨position', operators', .single (congrArg some (hblamed _ _ _ _ _))⟩
    | ok q =>
      rw [hclosing] at hwraps
      obtain ⟨x, rfl, hvalue, hnext⟩ := hwraps.of_ok
      obtain ⟨position'', hatq, hprevious, hclosed⟩ := close_of_ok hatr hclosing
      refine ⟨position'', operators', hnext ▸ hatq, trivial,
        .head (congrArg some (hclosed _ _ _ _ _ _)) (.single ?_)⟩
      simp only [hvalue, Parsed.append, ← hprevious]
      rfl

theorem operand_of_barren {v : View} {s : State} (h : Parser.Barren v.current.kind) :
    operand v s = s.stay (.fail ⟨.expression, v.current⟩) s.stack := by
  obtain ⟨hunary, hliteral, hopening, hname⟩ := h
  simp only [operand, hunary, hliteral]
  split
  · next h => exact absurd h (hopening .round)
  · next h => exact absurd h (hopening .square)
  · next n h => exact absurd h (hname n)
  · rfl

/-- Where an operand has to stand, the machine does what the parser does. -/
theorem operand_runs (hinner : Below row depth inner) :
    Runs row depth .operand (Parser.operand inner) := by
  intro c position operators stack hat
  rcases Parser.operand_cases inner c with ⟨hbarren, herror⟩ | ⟨t, d, hcd, hcases⟩
  · -- no operand begins here
    rw [herror c rfl]
    refine ⟨position, operators, .single ?_⟩
    have hkind := hat.kind_of_head (P := Parser.Barren) ⟨rfl, rfl, by simp, by simp⟩ hbarren
    rw [← hat.current]
    exact congrArg some (operand_of_barren hkind)
  · obtain ⟨hcurrent, hatd, -⟩ := hat.pass hcd
    rw [Nat.add_zero] at hatd
    have hnamed : ∀ s, t.kind = .name s →
        step row ⟨position, depth, operators, .enter .operand, stack⟩ =
          some ⟨(view row position).next, depth, operators, .named s t.span, stack⟩ := by
      intro s hk
      simp only [step, move, operand, hcurrent, hk]
      rfl
    rcases hcases with ⟨v, q, hv, hq, hvalue, rfl⟩ | ⟨s, q, hk, ho, hq, hvalue, rfl⟩ |
      ⟨s, o, k, hk, ho, hdk, hwraps⟩ | ⟨hk, hwraps⟩ | ⟨hk, hwraps⟩ | ⟨op, hk, hwraps⟩
    · -- a literal
      rw [hq]
      refine ⟨_, operators, hatd, trivial, .single ?_⟩
      have hl := Parser.literal?_eq_some_iff.2 hv
      have hu : Parser.unary? t.kind = none := by
        generalize t.kind = k at hv
        cases hv <;> rfl
      simp only [step, move, operand, hcurrent, hu, hl, hvalue]
      rfl
    · -- a name
      rw [hq]
      refine ⟨_, operators, hatd, trivial, .trans (.single (hnamed s hk)) (.single ?_)⟩
      have hkind := hatd.kind_of_head (P := fun k => k ≠ .opening .round) (by simp) ho
      simp only [step, move, if_neg hkind, hvalue]
      rfl
    · -- a call
      obtain ⟨hcurrent', hatk, -⟩ := hatd.pass hdk
      rw [Nat.add_zero] at hatk
      refine Returning.of_reaches (.trans (.single (hnamed s hk)) (.single ?_))
        (built_returning _ hwraps (bracketed_returning (.call s t.span) hinner hatk rfl) ?_)
      · simp only [step, move, hcurrent', if_pos ho]
        rfl
      · intro position operators a hends
        rw [← hends]
        rfl
    · -- a list
      refine Returning.head ?_
        (built_returning _ hwraps (bracketed_returning (.list t.span) hinner hatd rfl) ?_)
      · simp only [step, move, operand, hcurrent, hk]
        rfl
      · intro position operators a hends
        rw [← hends]
        rfl
    · -- parentheses
      refine Returning.head ?_ (paren_returning hinner hatd hwraps)
      simp only [step, move, operand, hcurrent, hk]
      rfl
    · -- a unary operator
      have hop := Parser.unary?_eq_some_iff.2 hk
      have hnested : Parser.nested inner d = Parser.nested (inner.map fun p => p) d := by
        rw [Option.map_id']
      rw [hnested] at hwraps
      refine Returning.head ?_
        (built_returning _ hwraps
          (descend_returning (.unary op t.span) hinner hatd fun p hp stack => hp stack hatd) ?_)
      · simp only [step, move, operand, hcurrent, hop]
        rfl
      · intro position operators a _
        rfl

/-- On every level the operands are followed: so many levels as are open and as may still be opened
make up the limit. -/
theorem operandWithin_runs (n : Nat) (h : n + depth = maxLevels) :
    Runs row depth .operand (Parser.operandWithin n) := by
  induction n generalizing depth with
  | zero =>
    have hfull : Below row depth none := by
      rw [Nat.zero_add] at h
      exact h
    exact operand_runs hfull
  | succ n ih =>
    have hroom : Below row depth (some (Parser.operandWithin n)) := by
      refine ⟨?_, ih ?_⟩
      · omega
      · omega
    exact operand_runs hroom

/-- Entered on any level, an expression is read as the parser reads it with the levels that are
left. -/
theorem expressionWithin_runs (n : Nat) (h : n + depth = maxLevels) :
    Runs row depth (.layer .comparison) (Parser.expressionOf (Parser.operandWithin n)) :=
  expressionOf_runs (operandWithin_runs n h)

end Levels

/-! ## Whole runs -/

section Halting

variable {row : List Token} {c d : Cursor} {s : State}

/-- With a statement in hand, the machine halts, and nothing may be left. -/
theorem statement_step {position operators : Nat} (hat : At row c position operators)
    (statement : Statement) :
    step row ⟨position, 0, operators, .give (.statement statement), []⟩ =
      some ⟨position, 0, operators,
        .halt (if c.rest.isEmpty then .ok statement else .error ⟨.finish, c.current⟩), []⟩ := by
  by_cases hrest : c.rest.isEmpty = true
  · have hfinish := hat.isFinish_iff.2 (List.isEmpty_iff.1 hrest)
    simp only [step, move, if_pos hfinish, if_pos hrest]
    rfl
  · have hfinish := fun h => hrest (List.isEmpty_iff.2 (hat.isFinish_iff.1 h))
    simp only [step, move, if_neg hfinish, if_neg hrest]
    rw [hat.current]
    rfl

/-- A statement that an expression ends is over where the expression is, if nothing is left. -/
theorem halts_of_returning (frame : Frame) {f : Expr → Statement} (hlevel : frame ≠ .level)
    (hframe : ∀ position operators e,
      step row ⟨position, 0, operators, .give (.tree e), [frame]⟩ =
        some ⟨position, 0, operators, .give (.statement (f e)), []⟩)
    (h : ReturningTree row 0 [frame] s (Parser.expression d)) :
    ∃ s', Reaches row s s' ∧ s'.control = .halt ((Parser.soleExpression d).map f) := by
  unfold Parser.soleExpression
  cases hd : Parser.expression d with
  | error e =>
    rw [hd] at h
    obtain ⟨position, operators, hreaches⟩ := h
    have hunwind : step row ⟨position, 0, operators, .fail e, [frame]⟩ =
        some ⟨position, 0, operators, .fail e, []⟩ := by
      cases frame with
      | level => exact absurd rfl hlevel
      | _ => rfl
    exact ⟨⟨position, 0, operators, .halt (.error e), []⟩, (hreaches.tail hunwind).tail rfl, rfl⟩
  | ok r =>
    rw [hd] at h
    obtain ⟨position, operators, hat, -, hreaches⟩ := h
    have hgiven := hreaches.tail (hframe position operators r.value)
    refine ⟨_, hgiven.tail (statement_step hat (f r.value)), ?_⟩
    simp only
    split <;> rfl

theorem begin_blank (hat : At row c 0 0) (hc : c.rest = []) :
    step row start = some ⟨0, 0, 0, .give (.statement (.blank c.finish.span)), []⟩ := by
  have hfinish := hat.isFinish_iff.2 hc
  have hcurrent : (view row 0).current = c.finish := by
    rw [hat.current, Cursor.current, hc]
  rw [← hcurrent]
  exact congrArg some (if_pos hfinish)

/-- The name and the sign of an assignment are passed in two steps. -/
theorem begin_assign (hat : At row c 0 0) {t a : Token} {n : String}
    (hcd : c.Passes [t, a] 0 d) (ht : t.kind = .name n) (ha : a.kind = .assign) :
    ∃ position, At row d position 0 ∧
      Reaches row start ⟨position, 0, 0, .enter (.layer .comparison), [.assign n t.span]⟩ := by
  obtain ⟨k, hck, hkd⟩ := hcd.split_token
  obtain ⟨hcurrent, hatk, -⟩ := hat.pass hck
  obtain ⟨-, hatd, -⟩ := hatk.pass hkd
  have hahead : (view row 0).ahead = .assign := by
    rw [hat.ahead hck, Cursor.current_of_head hkd.head, ha]
  have hfinish : ¬ (view row 0).current.kind.isFinish = true := by
    rw [hcurrent, ht]
    exact Bool.false_ne_true
  have hbegin : step row start = some ⟨(view row 0).next, 0, 0, .assigning n t.span, []⟩ := by
    refine congrArg some ((if_neg hfinish).trans ?_)
    simp only [start, hahead, hcurrent, ht]
    rfl
  exact ⟨_, hatd, .head hbegin (.single rfl)⟩

theorem begin_expr (hat : At row c 0 0) (hc : c.rest ≠ [])
    (hno : ∀ t a us s, c.rest = t :: a :: us → t.kind = .name s → a.kind ≠ .assign) :
    step row start = some ⟨0, 0, 0, .enter (.layer .comparison), [.expr]⟩ := by
  have hfinish : ¬ (view row 0).current.kind.isFinish = true := by
    rw [hat.isFinish_iff]
    exact hc
  refine congrArg some ((if_neg hfinish).trans ?_)
  split
  · next n hname hahead => exact absurd hahead (hat.ahead_ne_assign hname hno)
  · rfl

/-- From the first token on, the machine comes to a halt with what the parser gives. -/
theorem halts_with_statement (hat : At row c 0 0) :
    ∃ s, Reaches row start s ∧ s.control = .halt (Parser.soleStatement c) := by
  have hexpression : Runs row 0 (.layer .comparison) Parser.expression :=
    expressionWithin_runs maxLevels rfl
  rcases Parser.statement_cases c with ⟨hc, hblank⟩ | ⟨t, a, n, d, hcd, ht, ha, hassign⟩ |
    ⟨hc, hno, hexpr⟩
  · refine ⟨_, .tail (.single (begin_blank hat hc)) (statement_step hat _), ?_⟩
    simp only [Parser.soleStatement, hblank]
  · obtain ⟨position, hatd, hbegin⟩ := begin_assign hat hcd ht ha
    obtain ⟨s, hreaches, hs⟩ := halts_of_returning (.assign n t.span) (f := .assign n t.span)
      (by simp) (fun _ _ _ => rfl) (hexpression _ hatd)
    rw [Parser.soleStatement_of_map hassign]
    exact ⟨s, hbegin.trans hreaches, hs⟩
  · obtain ⟨s, hreaches, hs⟩ := halts_of_returning .expr (f := .expr) (by simp)
      (fun _ _ _ => rfl) (hexpression _ hat)
    rw [Parser.soleStatement_of_map hexpr]
    exact ⟨s, .head (begin_expr hat hc hno) hreaches, hs⟩

end Halting

/-- Tokens are ended by at most one more. -/
theorem ended_append (tokens : List Token) : ∃ more, ended tokens = tokens ++ more := by
  unfold ended
  split
  · next h =>
    rw [List.getLast?_eq_none_iff.1 h]
    exact ⟨[Token.finishAt 0], rfl⟩
  · split
    · exact ⟨[], (List.append_nil tokens).symm⟩
    · next t _ _ => exact ⟨[Token.finishAt t.span.stop], rfl⟩

/-- Tokens without an end get one where the last of them stops. -/
theorem ended_of_open {tokens : List Token} (h : ∀ t ∈ tokens, t.kind.isFinish = false) :
    ended tokens =
      tokens ++ [Token.finishAt (tokens.getLast?.elim 0 fun t => t.span.stop)] := by
  unfold ended
  split
  · next hnone =>
    rw [List.getLast?_eq_none_iff.1 hnone]
    rfl
  · next t hlast =>
    have ht := h t (List.mem_of_getLast? hlast)
    rw [if_neg (by simp [ht]), hlast]
    rfl

/-- Every row of tokens that the machine runs on has a first end, and the parser is given what
stands before it. -/
theorem ended_split (tokens : List Token) :
    ∃ ts q us, ended tokens = ts ++ q :: us ∧ (∀ t ∈ ts, t.kind.isFinish = false) ∧
      q.kind.isFinish = true ∧ Cursor.ofTokens tokens = ⟨ts, q, maxOperators⟩ := by
  cases hfind : tokens.find? fun t => t.kind.isFinish with
  | some q =>
    obtain ⟨hq, ts, us, rfl, hts⟩ := List.find?_eq_some_iff_append.1 hfind
    have hts' : ∀ t ∈ ts, t.kind.isFinish = false := by simpa using hts
    obtain ⟨more, hmore⟩ := ended_append (ts ++ q :: us)
    refine ⟨ts, q, us ++ more, ?_, hts', hq, Cursor.ofTokens_append hts' hq us⟩
    rw [hmore, List.append_assoc, List.cons_append]
  | none =>
    have hopen : ∀ t ∈ tokens, t.kind.isFinish = false := by simpa using hfind
    have hrest : tokens.takeWhile (fun t => !t.kind.isFinish) = tokens := by
      rw [List.takeWhile_eq_self_iff]
      simpa using hopen
    refine ⟨tokens, _, [], ended_of_open hopen, hopen, rfl, ?_⟩
    simp only [Cursor.ofTokens, hrest, hfind, Option.getD_none]

/-- On every row of tokens the machine comes to a halt with what `parse` gives. -/
theorem halts_with_parse (tokens : List Token) :
    ∃ s, Reaches (ended tokens) start s ∧ s.control = .halt (parse tokens) := by
  obtain ⟨ts, q, us, hrow, hts, hq, hcursor⟩ := ended_split tokens
  rw [← Parser.soleStatement_ofTokens, hrow, hcursor]
  exact halts_with_statement (at_of_le hts hq (Nat.zero_le _) (Nat.zero_le _))

end Machine

end Reckoner
