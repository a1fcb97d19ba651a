import Reckoner.Proofs.Parsing.Simulation

/-!
# Nothing behind the first end is read

The parser is given the tokens before the first end. The machine is given all of them, and nothing
in it tells the first end from a later one: a position may be moved up to the last token, and a
step looks at the token ahead as well. Still two runs on tokens that differ behind the first end
only are the same run (`reaches_behind_end`). Before the end they see the same, and at the end a
step sees nothing but the end.

So both runs halt with the same outcome, and what they halt with is what `parse` gives
(`parse_behind_end`).
-/

set_option autoImplicit false

namespace Reckoner

namespace Machine

variable {ts us us' : List Token} {q : Token} {s s' : State}

/-! ## What is seen up to the first end -/

theorem getElem?_up_to_end {i : Nat} (h : i ≤ ts.length) (us : List Token) :
    (ts ++ q :: us)[i]? = (ts ++ [q])[i]? := by
  rw [List.append_cons]
  apply List.getElem?_append_left
  rw [List.length_append, List.length_singleton]
  omega

/-- The token in view and the one before are the same for all tokens behind the end. -/
theorem view_up_to_end {position : Nat} (h : position ≤ ts.length) :
    (view (ts ++ q :: us) position).current = (view (ts ++ q :: us') position).current ∧
      (view (ts ++ q :: us) position).previous = (view (ts ++ q :: us') position).previous := by
  have hmin : ∀ us : List Token, min position ((ts ++ q :: us).length - 1) = position := by
    intro us
    rw [List.length_append, List.length_cons]
    omega
  constructor
  · simp only [view, hmin, List.getD_eq_getElem?_getD]
    rw [getElem?_up_to_end h us, getElem?_up_to_end h us']
  · simp only [view]
    rw [getElem?_up_to_end (by omega) us, getElem?_up_to_end (by omega) us']

/-- Before the end the token ahead is the same as well. -/
theorem view_before_end {position : Nat} (h : position < ts.length) :
    view (ts ++ q :: us) position = view (ts ++ q :: us') position := by
  have hcurrent :
      (view (ts ++ q :: us) position).current = (view (ts ++ q :: us') position).current :=
    (view_up_to_end (Nat.le_of_lt h)).1
  have hprevious :
      (view (ts ++ q :: us) position).previous = (view (ts ++ q :: us') position).previous :=
    (view_up_to_end (Nat.le_of_lt h)).2
  have hahead : (view (ts ++ q :: us) position).ahead = (view (ts ++ q :: us') position).ahead := by
    simp only [view]
    rw [getElem?_up_to_end h us, getElem?_up_to_end h us']
  have hnext : (view (ts ++ q :: us) position).next = (view (ts ++ q :: us') position).next := by
    rw [view_next_of_lt h, view_next_of_lt h]
  revert hcurrent hprevious hahead hnext
  cases view (ts ++ q :: us) position
  cases view (ts ++ q :: us') position
  rintro rfl rfl rfl rfl
  rfl

/-! ## Two runs -/

/-- A step does not depend on what stands behind the end. -/
theorem step_behind_end (hq : q.kind.isFinish = true) (h : Inv ts s) :
    step (ts ++ q :: us) s = step (ts ++ q :: us') s := by
  rcases Nat.lt_or_eq_of_le h.position with hlt | heq
  · exact congrArg (move · s) (view_before_end hlt)
  · -- At the end no step looks ahead.
    obtain ⟨hcurrent, hprevious⟩ := view_up_to_end h.position
    refine move_at_finish hcurrent hprevious ?_ ?_
    · rw [heq, view_current]
      exact hq
    · intro n span hcontrol
      have hlt := h.assigning n span hcontrol
      omega

theorem reaches_of_behind_end (hq : q.kind.isFinish = true)
    (hreaches : Reaches (ts ++ q :: us) start s) : Reaches (ts ++ q :: us') start s := by
  induction hreaches with
  | refl => exact .refl
  | @tail s₁ s₂ hbefore hstep ih =>
    -- So far the run has not come behind the end.
    have hinv := reaches_inv hq (start_inv ts) hbefore
    rw [step_behind_end hq hinv] at hstep
    exact ih.tail hstep

/-- Runs on tokens that differ behind the end only pass through the same states. -/
theorem reaches_behind_end (hq : q.kind.isFinish = true) :
    Reaches (ts ++ q :: us) start s ↔ Reaches (ts ++ q :: us') start s :=
  ⟨reaches_of_behind_end hq, reaches_of_behind_end hq⟩

/-- A run halts with one outcome only. -/
theorem halt_unique {row : List Token} {x y : Except ParseError Statement}
    (hs : Reaches row start s) (hx : s.control = .halt x) (hs' : Reaches row start s')
    (hy : s'.control = .halt y) : x = y := by
  -- From a state that has halted there is no step, and from any other there is one at most.
  have hlast : ∀ {s s' : State} {x : Except ParseError Statement}, s.control = .halt x →
      Reaches row s s' → s' = s := by
    intro s s' x hx hreaches
    rcases hreaches.cases_head with heq | ⟨s₁, hstep, -⟩
    · exact heq.symm
    · simp only [step, move, hx] at hstep
      cases hstep
  have hfunctional : Relator.RightUnique fun s s' => step row s = some s' := by
    intro a b c hb hc
    exact Option.some.inj (hb.symm.trans hc)
  obtain rfl : s' = s := by
    rcases Relation.ReflTransGen.total_of_right_unique hfunctional hs hs' with h | h
    · exact hlast hx h
    · exact (hlast hy h).symm
  rw [hx] at hy
  cases hy
  rfl

end Machine

open Machine in
/-- What stands behind an end has no effect: parsing gives the same result, with the same spans,
or the same fault, and it passes through the same states, none of them beyond the end. -/
theorem parse_behind_end (ts us : List Token) {q : Token} (hq : q.kind.isFinish = true) :
    parse (ts ++ [q] ++ us) = parse (ts ++ [q]) ∧
      (∀ s, Reaches (ended (ts ++ [q] ++ us)) start s ↔ Reaches (ended (ts ++ [q])) start s) ∧
      ∀ s, Reaches (ended (ts ++ [q] ++ us)) start s → s.position ≤ ts.length := by
  obtain ⟨more, hmore⟩ := ended_append (ts ++ [q] ++ us)
  obtain ⟨more', hmore'⟩ := ended_append (ts ++ [q])
  have hlong : ended (ts ++ [q] ++ us) = ts ++ q :: (us ++ more) := by
    rw [hmore, List.append_assoc, ← List.append_cons]
  have hshort : ended (ts ++ [q]) = ts ++ q :: more' := by
    rw [hmore', ← List.append_cons]
  have hruns : ∀ s,
      Reaches (ended (ts ++ [q] ++ us)) start s ↔ Reaches (ended (ts ++ [q])) start s := by
    intro s
    rw [hlong, hshort]
    exact reaches_behind_end hq
  refine ⟨?_, hruns, ?_⟩
  · obtain ⟨s, hs, hx⟩ := halts_with_parse (ts ++ [q] ++ us)
    obtain ⟨s', hs', hy⟩ := halts_with_parse (ts ++ [q])
    exact halt_unique ((hruns s).1 hs) hx hs' hy
  · intro s hs
    rw [hlong] at hs
    exact (reaches_inv hq (start_inv ts) hs).position

/-- The tokens of `x =`. -/
def valuelessAssignment : List Token :=
  [⟨.name "x", "x", ⟨0, 1⟩⟩, ⟨.assign, "=", ⟨2, 3⟩⟩]

/-- In `x =` the value is missing, also if a number and a second end stand behind the end. -/
theorem parse_behind_end_valuelessAssignment :
    (Token.finishAt 3).kind.isFinish = true ∧
      parse (valuelessAssignment ++ [Token.finishAt 3] ++
        [⟨.int 1, "1", ⟨4, 5⟩⟩, Token.finishAt 5]) =
        .error ⟨.expression, Token.finishAt 3⟩ := by
  obtain ⟨hsame, -⟩ := parse_behind_end valuelessAssignment
    [⟨.int 1, "1", ⟨4, 5⟩⟩, Token.finishAt 5] (q := Token.finishAt 3) rfl
  refine ⟨rfl, ?_⟩
  rw [hsame]
  cbv

end Reckoner
