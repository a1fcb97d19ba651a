import Mathlib.Logic.Relation
import Reckoner.Proofs.Grammar

/-!
# The parser as a machine

The parser hands a cursor from call to call and leaves the calls to the recursion. Here the same
reading is done by a machine that has all the tokens before it, those behind an end included, and
keeps what the calls share in its state: the position, the number of open levels and the number of
binary operators passed so far. Calls that wait for another to return are frames on a stack.

A step sees the token at the position, the kind of the next one and the span of the one before
(`View`). It moves the position by one token at most. A fault is handed down the stack frame by
frame, as a result is, so that every call returns in one way or the other.

`Moves` says once what a step can do to the numbers of the state. It moves past a token only if that
token is not the end (`move_moves`), and at the end it sees nothing but the end (`move_at_finish`).
From this follows what holds along every run (`reaches_inv`, `position_le_of_reaches`).
-/

set_option autoImplicit false

namespace Reckoner

namespace Machine

/-! ## Tokens in view -/

/-- The tokens that the machine runs on. If the last one is not the end, an end is put where it
stops. -/
def ended (tokens : List Token) : List Token :=
  match tokens.getLast? with
  | none => [Token.finishAt 0]
  | some t => if t.kind.isFinish then tokens else tokens ++ [Token.finishAt t.span.stop]

/-- What can be seen from a position: the token there, the kind of the next one, the span of the one
before, and the position behind the token. -/
structure View where
  current : Token
  ahead : Token.Kind
  previous : Span
  next : Nat

/-- What is seen of the tokens. No position lies behind the last of them. -/
def view (row : List Token) (position : Nat) : View where
  current := row.getD (min position (row.length - 1)) (Token.finishAt 0)
  ahead := row[position + 1]?.elim .finish Token.kind
  previous :=
    if position = 0 then Span.point 0 else row[position - 1]?.elim (Span.point 0) Token.span
  next := if position < row.length - 1 then position + 1 else position

section View

variable (before behind : List Token) (t u : Token)

theorem view_current : (view (before ++ t :: behind) before.length).current = t := by
  have hmin : min before.length ((before ++ t :: behind).length - 1) = before.length := by
    rw [List.length_append, List.length_cons]
    omega
  simp only [view, hmin]
  simp

theorem view_ahead : (view (before ++ t :: u :: behind) before.length).ahead = u.kind := by
  simp [view]

theorem view_next (h : behind ≠ []) :
    (view (before ++ t :: behind) before.length).next = before.length + 1 := by
  have hlength := List.length_pos_iff.2 h
  have hlt : before.length < (before ++ t :: behind).length - 1 := by
    rw [List.length_append, List.length_cons]
    omega
  simp only [view, if_pos hlt]

theorem view_previous : (view (before ++ t :: behind) (before.length + 1)).previous = t.span := by
  simp [view]

theorem le_view_next (row : List Token) (position : Nat) : position ≤ (view row position).next := by
  simp only [view]
  split <;> omega

end View

/-! ## States -/

/-- What a call reads: operands joined by the operators of a layer, one operand, or items up to a
closing bracket. -/
inductive Task where
  | layer (l : Layer)
  | operand
  | items (b : Bracket)

/-- What a call returns. -/
inductive Result where
  | tree (e : Expr)
  | trees (es : List Expr)
  | statement (s : Statement)

/-- The constructs that open a level, with the span of their first token. -/
inductive Construct where
  | unary (op : UnaryOp) (start : Span)
  | paren (start : Span)
  | list (start : Span)
  | call (function : String) (start : Span)

/-- What is left to do when a call returns. -/
inductive Frame where
  | level
  | first (l : Layer)
  | next (l : Layer) (left : Expr) (op : BinaryOp)
  | build (construct : Construct)
  | closedParen (start : Span)
  | item (b : Bracket) (done : List Expr)
  | expr
  | assign (name : String) (nameSpan : Span)

/-- What the machine is about to do. -/
inductive Control where
  | begin
  | assigning (name : String) (nameSpan : Span)
  | enter (task : Task)
  | descend (construct : Construct)
  | named (name : String) (span : Span)
  | collect (b : Bracket) (done : List Expr)
  | give (result : Result)
  | fail (e : ParseError)
  | halt (outcome : Except ParseError Statement)

/-- The state of a run. -/
structure State where
  position : Nat
  depth : Nat
  operators : Nat
  control : Control
  stack : List Frame

/-- The state before the first token. -/
def start : State where
  position := 0
  depth := 0
  operators := 0
  control := .begin
  stack := []

/-- How many levels are open in a stack. -/
def levels : List Frame → Nat
  | [] => 0
  | .level :: stack => levels stack + 1
  | _ :: stack => levels stack

namespace State

/-- The same place with something else to do. -/
def stay (s : State) (control : Control) (stack : List Frame) : State :=
  { s with control := control, stack := stack }

/-- The place behind the token in view. -/
def pass (s : State) (v : View) (control : Control) (stack : List Frame) : State :=
  { s with position := v.next, control := control, stack := stack }

/-- A call returns, with a result or with a fault. -/
def Returns (s : State) : Prop :=
  (∃ r, s.control = .give r) ∨ ∃ e, s.control = .fail e

end State

/-! ## Steps -/

/-- The operator of a layer that a token stands for. -/
def operator? : Layer → Token.Kind → Option BinaryOp
  | .comparison => Parser.comparison?
  | .sum => Parser.additive?
  | .product => Parser.multiplicative?

/-- What the operands of a layer are. -/
def operandTask : Layer → Task
  | .comparison => .layer .sum
  | .sum => .layer .product
  | .product => .operand

/-- What stands inside a construct. -/
def Construct.task : Construct → Task
  | .unary _ _ => .operand
  | .paren _ => .layer .comparison
  | .list _ => .items .square
  | .call _ _ => .items .round

/-- With an operand in hand, goes on if an operator of the layer follows. The operator is counted
before it is passed. -/
def onward (v : View) (s : State) (l : Layer) (left : Expr) (stack : List Frame) : State :=
  match operator? l v.current.kind with
  | none => s.stay (.give (.tree left)) stack
  | some op =>
    if s.operators < maxOperators then
      { s.pass v (.enter (operandTask l)) (.next l left op :: stack) with
        operators := s.operators + 1 }
    else s.stay (.fail ⟨.fewerOperators, v.current⟩) stack

/-- Begins a statement. An assignment is told by the token in view and the next one. -/
def begin (v : View) (s : State) : State :=
  if v.current.kind.isFinish then s.stay (.give (.statement (.blank v.current.span))) s.stack
  else
    match v.current.kind, v.ahead with
    | .name n, .assign => s.pass v (.assigning n v.current.span) s.stack
    | _, _ => s.stay (.enter (.layer .comparison)) (.expr :: s.stack)

/-- Begins an operand. -/
def operand (v : View) (s : State) : State :=
  let t := v.current
  match Parser.unary? t.kind with
  | some op => s.pass v (.descend (.unary op t.span)) s.stack
  | none =>
    match Parser.literal? t.kind with
    | some value => s.pass v (.give (.tree (.literal value t.span))) s.stack
    | none =>
      match t.kind with
      | .opening .round => s.pass v (.descend (.paren t.span)) s.stack
      | .opening .square => s.pass v (.descend (.list t.span)) s.stack
      | .name n => s.pass v (.named n t.span) s.stack
      | _ => s.stay (.fail ⟨.expression, t⟩) s.stack

/-- Goes one level down into a construct, if that is allowed. -/
def descend (v : View) (s : State) (construct : Construct) : State :=
  if s.depth < maxLevels then
    { s.stay (.enter construct.task) (.level :: .build construct :: s.stack) with
      depth := s.depth + 1 }
  -- No level was opened, so the fault comes to the construct as from a call that has returned.
  else s.stay (.fail ⟨.fewerLevels, v.current⟩) (.build construct :: s.stack)

/-- Passes a closing bracket, or complains of the token in its place. -/
def close (v : View) (s : State) (b : Bracket) (control : Control) (stack rest : List Frame) :
    State :=
  if v.current.kind = .closing b then s.pass v control stack
  else s.stay (.fail ⟨.closing b, v.current⟩) rest

/-- Collects items up to a closing bracket. -/
def collect (v : View) (s : State) (b : Bracket) (done : List Expr) : State :=
  if v.current.kind = .closing b ∨ v.current.kind.isFinish then
    close v s b (.give (.trees done)) s.stack s.stack
  else s.stay (.enter (.layer .comparison)) (.item b done :: s.stack)

/-- What a frame makes of a result without looking at the token in view. A bracket that has been
passed is the token before. -/
def built? (previous : Span) : Frame → Result → Option Result
  | .build (.unary op start), .tree e => some (.tree (.unary op e (start.merge e.span)))
  | .closedParen start, .tree e => some (.tree (.paren e (start.merge previous)))
  | .build (.list start), .trees es => some (.tree (.list es (start.merge previous)))
  | .build (.call f start), .trees es => some (.tree (.call f start es (start.merge previous)))
  | .expr, .tree e => some (.statement (.expr e))
  | .assign n nameSpan, .tree e => some (.statement (.assign n nameSpan e))
  | _, _ => none

/-- Does what a frame says with the result of a call. -/
def resume (v : View) (s : State) (stack : List Frame) : Frame → Result → Option State
  | .level, r => some { s.stay (.give r) stack with depth := s.depth - 1 }
  | .first l, .tree e => some (onward v s l e stack)
  -- A comparison is over behind its second operand; the other layers go on.
  | .next .comparison left op, .tree e =>
    some (s.stay (.give (.tree (Parser.join left (op, e)))) stack)
  | .next l left op, .tree e => some (onward v s l (Parser.join left (op, e)) stack)
  -- The bracket of a list or a call is passed on the level of the items, that of parentheses here.
  | .build (.paren start), .tree e =>
    some (close v s .round (.give (.tree e)) (.closedParen start :: stack) stack)
  | .item b done, .tree e =>
    if v.current.kind = .comma then some (s.pass v (.collect b (done ++ [e])) stack)
    else some (close v s b (.give (.trees (done ++ [e]))) stack stack)
  | frame, r => (built? v.previous frame r).map fun r => s.stay (.give r) stack

/-- What is left of a fault when it is handed past a frame. -/
def unwind (s : State) (e : ParseError) (stack : List Frame) : Frame → State
  | .level => { s.stay (.fail e) stack with depth := s.depth - 1 }
  | _ => s.stay (.fail e) stack

/-- The step of a state that sees so much of the tokens. There is none when the run is over. -/
def move (v : View) (s : State) : Option State :=
  match s.control with
  | .begin => some (begin v s)
  -- The sign was seen from the name, and is passed without another look.
  | .assigning n nameSpan =>
    some (s.pass v (.enter (.layer .comparison)) (.assign n nameSpan :: s.stack))
  | .enter (.layer l) => some (s.stay (.enter (operandTask l)) (.first l :: s.stack))
  | .enter .operand => some (operand v s)
  | .enter (.items b) => some (s.stay (.collect b []) s.stack)
  | .descend construct => some (descend v s construct)
  | .named n span =>
    if v.current.kind = .opening .round then some (s.pass v (.descend (.call n span)) s.stack)
    else some (s.stay (.give (.tree (.name n span))) s.stack)
  | .collect b done => some (collect v s b done)
  | .give r =>
    match s.stack, r with
    | frame :: stack, r => resume v s stack frame r
    | [], .statement statement =>
      if v.current.kind.isFinish then some (s.stay (.halt (.ok statement)) [])
      else some (s.stay (.halt (.error ⟨.finish, v.current⟩)) [])
    | [], _ => none
  | .fail e =>
    match s.stack with
    | frame :: stack => some (unwind s e stack frame)
    | [] => some (s.stay (.halt (.error e)) [])
  | .halt _ => none

/-- One step of a run on a row of tokens. -/
def step (row : List Token) (s : State) : Option State :=
  move (view row s.position) s

/-- Some number of steps lead from one state to another. -/
abbrev Reaches (row : List Token) : State → State → Prop :=
  Relation.ReflTransGen fun s s' => step row s = some s'

/-! ## What a step can do -/

/-- What a step does to the numbers of a state. The position is kept, or moved past a token that
is not the end or that has been looked at before. At most one operator is counted and at most one
level opened, within the limits, and the depth goes on to be the number of open levels. -/
structure Moves (v : View) (s s' : State) : Prop where
  position : s'.position = s.position ∨ s'.position = v.next ∧
    (v.current.kind.isFinish = false ∨ ∃ n span, s.control = .assigning n span)
  operators : s'.operators = s.operators ∨
    s'.operators = s.operators + 1 ∧ s.operators < maxOperators
  depth : s.depth = levels s.stack → s'.depth = levels s'.stack
  limit : s.depth ≤ maxLevels → s'.depth ≤ maxLevels
  assigning : ∀ n span, s'.control = .assigning n span →
    s'.position = v.next ∧ v.current.kind.isFinish = false ∧ v.ahead = .assign

section Moves

variable {v : View} {s s' : State} {control : Control} {stack : List Frame}

theorem stay_moves (hstack : levels stack = levels s.stack)
    (hcontrol : ∀ n span, control ≠ .assigning n span) : Moves v s (s.stay control stack) where
  position := Or.inl rfl
  operators := Or.inl rfl
  depth := fun h => h.trans hstack.symm
  limit := id
  assigning := fun n span h => absurd h (hcontrol n span)

theorem pass_moves (hcurrent : v.current.kind.isFinish = false)
    (hstack : levels stack = levels s.stack)
    (hcontrol : ∀ n span, control = .assigning n span → v.ahead = .assign) :
    Moves v s (s.pass v control stack) where
  position := Or.inr ⟨rfl, Or.inl hcurrent⟩
  operators := Or.inl rfl
  depth := fun h => h.trans hstack.symm
  limit := id
  assigning := fun n span h => ⟨rfl, hcurrent, hcontrol n span h⟩

theorem isFinish_of_operator? {l : Layer} {k : Token.Kind} {op : BinaryOp}
    (h : operator? l k = some op) : k.isFinish = false := by
  cases k with
  | finish => cases l <;> cases h
  | _ => rfl

theorem onward_moves (l : Layer) (left : Expr) (hstack : levels stack = levels s.stack) :
    Moves v s (onward v s l left stack) := by
  unfold onward
  split
  · exact stay_moves hstack (by simp)
  · next op hop =>
    split
    · next hlt =>
      have hpass : Moves v s (s.pass v (.enter (operandTask l)) (.next l left op :: stack)) :=
        pass_moves (isFinish_of_operator? hop) hstack (by simp)
      exact ⟨hpass.position, Or.inr ⟨rfl, hlt⟩, hpass.depth, hpass.limit, hpass.assigning⟩
    · exact stay_moves hstack (by simp)

theorem begin_moves : Moves v s (begin v s) := by
  unfold begin
  split
  · exact stay_moves rfl (by simp)
  · next hcurrent =>
    split
    · next hahead => exact pass_moves (by simpa using hcurrent) rfl fun _ _ _ => hahead
    · exact stay_moves rfl (by simp)

theorem operand_moves : Moves v s (operand v s) := by
  have hpass : ∀ {control : Control}, v.current.kind.isFinish = false →
      (∀ n span, control ≠ .assigning n span) → Moves v s (s.pass v control s.stack) :=
    fun hcurrent hcontrol => pass_moves hcurrent rfl fun n span h => absurd h (hcontrol n span)
  unfold operand
  dsimp only
  generalize hk : v.current.kind = k at hpass ⊢
  cases k with
  | not | minus | int | float | text | bool | name => exact hpass rfl (by simp)
  | opening b => cases b <;> exact hpass rfl (by simp)
  | _ => exact stay_moves rfl (by simp)

theorem descend_moves (construct : Construct) : Moves v s (descend v s construct) := by
  unfold descend
  split
  · next hlt =>
    refine ⟨Or.inl rfl, Or.inl rfl, ?_, fun _ => hlt, by simp [State.stay]⟩
    intro hdepth
    exact congrArg (· + 1) hdepth
  · exact stay_moves rfl (by simp)

theorem close_moves {b : Bracket} {rest : List Frame} (hstack : levels stack = levels s.stack)
    (hrest : levels rest = levels s.stack) (hcontrol : ∀ n span, control ≠ .assigning n span) :
    Moves v s (close v s b control stack rest) := by
  unfold close
  split
  · next hcurrent =>
    apply pass_moves _ hstack fun n span h => absurd h (hcontrol n span)
    rw [hcurrent]
    rfl
  · exact stay_moves hrest (by simp)

theorem collect_moves (b : Bracket) (done : List Expr) : Moves v s (collect v s b done) := by
  unfold collect
  split
  · exact close_moves rfl rfl (by simp)
  · exact stay_moves rfl (by simp)

/-- The step in which a call returns to its frame. -/
theorem resume_moves {frame : Frame} {r : Result} (hs : s.stack = frame :: stack)
    (h : resume v s stack frame r = some s') : Moves v s s' := by
  have hframe : frame ≠ .level → levels stack = levels s.stack := by
    intro hne
    rw [hs]
    cases frame with
    | level => exact absurd rfl hne
    | _ => rfl
  unfold resume at h
  split at h
  · -- a level is left
    obtain rfl := Option.some.inj h
    refine ⟨Or.inl rfl, Or.inl rfl, ?_, ?_, by simp [State.stay]⟩
    · intro hdepth
      rw [hs] at hdepth
      exact Nat.sub_eq_of_eq_add hdepth
    · intro hle
      exact Nat.le_trans (Nat.sub_le _ _) hle
  · obtain rfl := Option.some.inj h
    exact onward_moves _ _ (hframe (by simp))
  · obtain rfl := Option.some.inj h
    exact stay_moves (hframe (by simp)) (by simp)
  · obtain rfl := Option.some.inj h
    exact onward_moves _ _ (hframe (by simp))
  · obtain rfl := Option.some.inj h
    exact close_moves (hframe (by simp)) (hframe (by simp)) (by simp)
  · -- behind an item
    split at h
    · next hcomma =>
      obtain rfl := Option.some.inj h
      refine pass_moves ?_ (hframe (by simp)) (by simp)
      rw [hcomma]
      rfl
    · obtain rfl := Option.some.inj h
      exact close_moves (hframe (by simp)) (hframe (by simp)) (by simp)
  · next hlevel _ _ _ _ _ =>
    -- the result is built where the call has returned
    obtain ⟨r', -, rfl⟩ := Option.map_eq_some_iff.1 h
    refine stay_moves (hframe ?_) (by simp)
    rintro rfl
    exact hlevel rfl

theorem unwind_moves {frame : Frame} (e : ParseError) (hs : s.stack = frame :: stack) :
    Moves v s (unwind s e stack frame) := by
  cases frame with
  | level =>
    refine ⟨Or.inl rfl, Or.inl rfl, ?_, ?_, by simp [unwind, State.stay]⟩
    · intro hdepth
      rw [hs] at hdepth
      exact Nat.sub_eq_of_eq_add hdepth
    · intro hle
      exact Nat.le_trans (Nat.sub_le _ _) hle
  | _ =>
    refine stay_moves ?_ (by simp)
    rw [hs]
    rfl

/-- A step does nothing else to the numbers of a state. -/
theorem move_moves (h : move v s = some s') : Moves v s s' := by
  obtain ⟨position, depth, operators, control, stack⟩ := s
  cases control with
  | begin =>
    obtain rfl := Option.some.inj h
    exact begin_moves
  | assigning n nameSpan =>
    -- The token in view was looked at from the one before.
    obtain rfl := Option.some.inj h
    exact ⟨Or.inr ⟨rfl, Or.inr ⟨n, nameSpan, rfl⟩⟩, Or.inl rfl, id, id, by simp [State.pass]⟩
  | enter task =>
    cases task with
    | layer l =>
      obtain rfl := Option.some.inj h
      exact stay_moves rfl (by simp)
    | operand =>
      obtain rfl := Option.some.inj h
      exact operand_moves
    | items b =>
      obtain rfl := Option.some.inj h
      exact stay_moves rfl (by simp)
  | descend construct =>
    obtain rfl := Option.some.inj h
    exact descend_moves construct
  | named n span =>
    simp only [move] at h
    split at h
    · next hbracket =>
      obtain rfl := Option.some.inj h
      refine pass_moves ?_ rfl (by simp)
      rw [hbracket]
      rfl
    · obtain rfl := Option.some.inj h
      exact stay_moves rfl (by simp)
  | collect b done =>
    obtain rfl := Option.some.inj h
    exact collect_moves b done
  | give r =>
    cases stack with
    | cons frame stack => exact resume_moves rfl h
    | nil =>
      cases r with
      | tree | trees => cases h
      | statement statement =>
        simp only [move] at h
        split at h <;> obtain rfl := Option.some.inj h <;> exact stay_moves rfl (by simp)
  | fail e =>
    cases stack with
    | cons frame stack =>
      obtain rfl := Option.some.inj h
      exact unwind_moves e rfl
    | nil =>
      obtain rfl := Option.some.inj h
      exact stay_moves rfl (by simp)
  | halt outcome => cases h

/-- At the end a frame sees nothing but the end and the span before it. -/
theorem resume_at_finish {text : String} {span previous : Span} {ahead ahead' : Token.Kind}
    {next next' : Nat} (frame : Frame) (r : Result) :
    resume ⟨⟨.finish, text, span⟩, ahead, previous, next⟩ s stack frame r =
      resume ⟨⟨.finish, text, span⟩, ahead', previous, next'⟩ s stack frame r := by
  cases frame with
  | first l | next l => cases l <;> cases r <;> rfl
  | build construct => cases construct <;> cases r <;> rfl
  | level | closedParen | item | expr | assign => cases r <;> rfl

/-- At the end a step sees nothing but the end and the span before it. -/
theorem move_at_finish {v' : View} (hcurrent : v'.current = v.current)
    (hprevious : v'.previous = v.previous) (hfinish : v.current.kind.isFinish = true)
    (hcontrol : ∀ n span, s.control ≠ .assigning n span) : move v' s = move v s := by
  obtain ⟨⟨kind, text, span⟩, ahead, previous, next⟩ := v
  obtain ⟨current', ahead', previous', next'⟩ := v'
  obtain ⟨position, depth, operators, control, stack⟩ := s
  obtain rfl : kind = .finish := by
    cases kind with
    | finish => rfl
    | _ => cases hfinish
  obtain rfl : current' = ⟨.finish, text, span⟩ := hcurrent
  obtain rfl : previous' = previous := hprevious
  cases control with
  | assigning n span => exact absurd rfl (hcontrol n span)
  | enter task => cases task <;> rfl
  | give r =>
    cases stack with
    | nil => cases r <;> rfl
    | cons frame stack => exact resume_at_finish frame r
  | begin | descend | named | collect | fail | halt => rfl

end Moves

/-! ## What holds along a run -/

section Run

variable {ts us : List Token} {q : Token} {s s' : State}

/-- What holds of every state of a run on tokens that have an end behind `ts`. -/
structure Inv (ts : List Token) (s : State) : Prop where
  position : s.position ≤ ts.length
  operators : s.operators ≤ maxOperators
  depth : s.depth = levels s.stack
  limit : s.depth ≤ maxLevels
  assigning : ∀ n span, s.control = .assigning n span → s.position < ts.length

theorem start_inv (ts : List Token) : Inv ts start where
  position := Nat.zero_le _
  operators := Nat.zero_le _
  depth := rfl
  limit := Nat.zero_le _
  assigning := by simp [start]

/-- Where the end is not in view, it is further on. -/
theorem lt_length_of_current (hq : q.kind.isFinish = true) {position : Nat}
    (hle : position ≤ ts.length)
    (hcurrent : (view (ts ++ q :: us) position).current.kind.isFinish = false) :
    position < ts.length := by
  apply Nat.lt_of_le_of_ne hle
  rintro rfl
  rw [view_current, hq] at hcurrent
  cases hcurrent

theorem view_next_of_lt {position : Nat} (hlt : position < ts.length) :
    (view (ts ++ q :: us) position).next = position + 1 := by
  have hlt' : position < (ts ++ q :: us).length - 1 := by
    rw [List.length_append, List.length_cons]
    omega
  simp only [view, if_pos hlt']

/-- A step that passes a token passes one before the end, so it does not get behind the end. -/
theorem step_inv (hq : q.kind.isFinish = true) (h : Inv ts s)
    (hstep : step (ts ++ q :: us) s = some s') : Inv ts s' := by
  have hmoves := move_moves hstep
  have hpassed : (view (ts ++ q :: us) s.position).current.kind.isFinish = false →
      s.position < ts.length := lt_length_of_current hq h.position
  refine ⟨?_, ?_, hmoves.depth h.depth, hmoves.limit h.limit, ?_⟩
  · rcases hmoves.position with hkept | ⟨hnext, hcurrent⟩
    · exact hkept ▸ h.position
    · have hlt : s.position < ts.length := by
        rcases hcurrent with hcurrent | ⟨n, span, hcontrol⟩
        · exact hpassed hcurrent
        · exact h.assigning n span hcontrol
      rw [hnext, view_next_of_lt hlt]
      exact hlt
  · rcases hmoves.operators with hkept | ⟨hcounted, hlt⟩
    · exact hkept ▸ h.operators
    · exact hcounted ▸ hlt
  · -- An assignment sign was seen ahead, and the end is none.
    intro n span hcontrol
    obtain ⟨hnext, hcurrent, hahead⟩ := hmoves.assigning n span hcontrol
    have hlt := hpassed hcurrent
    rw [hnext, view_next_of_lt hlt]
    apply Nat.lt_of_le_of_ne hlt
    intro hlast
    have hkind : q.kind = .assign := by
      rw [← hahead]
      simp only [view]
      rw [show s.position + 1 = ts.length from hlast]
      simp
    rw [hkind] at hq
    cases hq

theorem reaches_inv (hq : q.kind.isFinish = true) (h : Inv ts s)
    (hreaches : Reaches (ts ++ q :: us) s s') : Inv ts s' := by
  induction hreaches with
  | refl => exact h
  | tail _ hstep ih => exact step_inv hq ih hstep

/-- No run moves backwards. -/
theorem position_le_of_reaches {row : List Token} (hreaches : Reaches row s s') :
    s.position ≤ s'.position := by
  induction hreaches with
  | refl => exact Nat.le_refl _
  | tail _ hstep ih =>
    rcases (move_moves hstep).position with hkept | ⟨hnext, -⟩
    · exact hkept ▸ ih
    · rw [hnext]
      exact Nat.le_trans ih (le_view_next row _)

end Run

end Machine

end Reckoner
