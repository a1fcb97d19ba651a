import Reckoner.Proofs.Comparison

/-!
# The smallest and the largest argument

The functions `min` and `max` go through their arguments once and compare each with the best so far
only. Equality of numbers is not transitive, so it is not obvious that the last best is at least as good
as every argument that was dropped on the way. What carries through is the strict order: no argument
seen so far stands strictly before the best one (`Leads`), a step keeps this because the strict order is
transitive (`Leads.step`), and so does a run (`Leads.run`).

Main statement (`min_max_extreme`): for proper numbers both functions return one of their arguments, and
the language finds it at most, or at least, every argument. An argument that is no number makes both
fail wherever it stands.
-/

set_option autoImplicit false

namespace Reckoner

namespace Builtin

@[simp]
theorem numberOf_toValue (f : Builtin) (n : Number) : numberOf f n.toValue = .ok n := by
  rw [numberOf, Value.number?_toValue]

theorem numberOf_of_none (f : Builtin) {v : Value} (h : v.number? = none) :
    numberOf f v = .error (.invalidArgument f (.kind .number v.kind)) := by
  rw [numberOf, h]
  rfl

/-- The better of the best number so far and another one, the first if neither is. -/
def better (keep : Ordering) (best n : Number) : Number :=
  if n.compare? best = some keep then n else best

/-- On numbers the functions fold over their arguments. -/
theorem extremeFrom_numbers (f : Builtin) (keep : Ordering) (best : Number) (ns : List Number) :
    extremeFrom f keep best (ns.map Number.toValue) =
      .ok (ns.foldl (better keep) best).toValue := by
  induction ns generalizing best with
  | nil => rfl
  | cons n ns ih =>
    rw [List.map_cons, extremeFrom, numberOf_toValue, List.foldl_cons]
    exact ih (better keep best n)

theorem extreme_numbers (f : Builtin) (keep : Ordering) (n : Number) (ns : List Number) :
    extreme f keep n.toValue (ns.map Number.toValue) = .ok (ns.foldl (better keep) n).toValue := by
  rw [extreme, numberOf_toValue]
  exact extremeFrom_numbers f keep n ns

/-! ## Nothing beats the best -/

/-- The best number is one of those seen so far, and none of them stands strictly before it. -/
structure Leads (keep : Ordering) (seen : List Number) (best : Number) : Prop where
  mem : best ∈ seen
  unbeaten : ∀ n ∈ seen, n.compare? best ≠ some keep

section Run

variable {keep : Ordering} (hkeep : keep ≠ .eq)

include hkeep

theorem compare?_self_ne {n : Number} (hn : n.Proper) : n.compare? n ≠ some keep := by
  rw [Number.compare?_self hn]
  rintro ⟨⟩
  exact hkeep rfl

theorem Leads.first {n : Number} (hn : n.Proper) : Leads keep [n] n where
  mem := List.mem_singleton_self n
  unbeaten := List.forall_mem_singleton.2 (compare?_self_ne hkeep hn)

/-- One more number, and the better of the two leads. -/
theorem Leads.step {seen : List Number} {best n : Number} (h : Leads keep seen best)
    (hseen : ∀ m ∈ seen, m.Proper) (hn : n.Proper) : Leads keep (seen ++ [n]) (better keep best n) := by
  by_cases hbeats : n.compare? best = some keep
  · rw [better, if_pos hbeats]
    refine ⟨List.mem_append_right seen (List.mem_singleton_self n), ?_⟩
    intro m hm hbeaten
    rcases List.mem_append.1 hm with hm | hm
    · -- What stands before the new best would have stood before the old one.
      have hbefore := Number.compare?_trans (hseen m hm) hn (hseen best h.mem) hkeep hbeaten hbeats
      exact h.unbeaten m hm hbefore
    · rw [List.mem_singleton.1 hm] at hbeaten
      exact compare?_self_ne hkeep hn hbeaten
  · rw [better, if_neg hbeats]
    refine ⟨List.mem_append_left [n] h.mem, ?_⟩
    intro m hm
    rcases List.mem_append.1 hm with hm | hm
    · exact h.unbeaten m hm
    · rwa [List.mem_singleton.1 hm]

/-- After all numbers, the best one leads them all. -/
theorem Leads.run {seen : List Number} {best : Number} (h : Leads keep seen best)
    (hseen : ∀ m ∈ seen, m.Proper) {ns : List Number} (hns : ∀ n ∈ ns, n.Proper) :
    Leads keep (seen ++ ns) (ns.foldl (better keep) best) := by
  induction ns generalizing seen best with
  | nil =>
    rw [List.append_nil]
    exact h
  | cons n ns ih =>
    rw [List.forall_mem_cons] at hns
    have hseen' : ∀ m ∈ seen ++ [n], m.Proper :=
      List.forall_mem_append.2 ⟨hseen, List.forall_mem_singleton.2 hns.1⟩
    rw [List.append_cons]
    exact ih (h.step hkeep hseen hns.1) hseen' hns.2

end Run

/-- The best number is in no other order to the rest than what its place allows. -/
theorem Leads.exists_order {keep : Ordering} {seen : List Number} {best n : Number}
    (h : Leads keep seen best) (hseen : ∀ m ∈ seen, m.Proper) (hn : n ∈ seen) :
    ∃ o, best.compare? n = some o ∧ o ≠ keep.swap := by
  obtain ⟨o, ho⟩ := Number.exists_compare? (hseen best h.mem) (hseen n hn)
  refine ⟨o, ho, ?_⟩
  rintro rfl
  have hswap := Number.compare?_swap (hseen best h.mem) (hseen n hn) ho
  rw [Ordering.swap_swap] at hswap
  exact h.unbeaten n hn hswap

/-! ## Arguments -/

theorem exists_numbers {args : List Value} (h : ∀ v ∈ args, v.InFamily .numbers) :
    ∃ ns : List Number, args = ns.map Number.toValue ∧ ∀ n ∈ ns, n.Proper := by
  induction args with
  | nil => exact ⟨[], rfl, List.forall_mem_nil _⟩
  | cons v args ih =>
    rw [List.forall_mem_cons] at h
    obtain ⟨n, rfl, hn⟩ := h.1.exists_number
    obtain ⟨ns, rfl, hns⟩ := ih h.2
    exact ⟨n :: ns, rfl, List.forall_mem_cons.2 ⟨hn, hns⟩⟩

/-- The result is an argument, and a comparison that admits every order but that of the beaten holds
between it and each of them. -/
theorem exists_extreme (f : Builtin) {keep : Ordering} (hkeep : keep ≠ .eq) {op : BinaryOp}
    (hop : op ∈ BinaryOp.comparisons) (haccepts : ∀ o, o ≠ keep.swap → op.accepts o = true)
    {first : Value} {more : List Value} (h : ∀ v ∈ first :: more, v.InFamily .numbers) :
    ∃ r ∈ first :: more, extreme f keep first more = .ok r ∧
      ∀ x ∈ first :: more, op.Gives r x true := by
  obtain ⟨n, rfl, hn⟩ := (h first List.mem_cons_self).exists_number
  obtain ⟨ns, rfl, hns⟩ := exists_numbers fun v hv => h v (List.mem_cons_of_mem _ hv)
  have hproper : ∀ m ∈ n :: ns, m.Proper := List.forall_mem_cons.2 ⟨hn, hns⟩
  have hleads : Leads keep (n :: ns) (ns.foldl (better keep) n) :=
    (Leads.first hkeep hn).run hkeep (List.forall_mem_singleton.2 hn) hns
  have hmem : (ns.foldl (better keep) n).toValue ∈ n.toValue :: ns.map Number.toValue :=
    List.mem_map_of_mem hleads.mem
  refine ⟨_, hmem, extreme_numbers f keep n ns, ?_⟩
  intro x hx
  obtain ⟨m, hm, rfl⟩ := List.mem_map.1 (List.map_cons ▸ hx : x ∈ (n :: ns).map Number.toValue)
  obtain ⟨o, ho, hne⟩ := hleads.exists_order hproper hm
  have horder := (Value.order?_toValue _ _).trans ho
  apply BinaryOp.gives_of_apply
  rw [BinaryOp.apply_comparison (h _ hmem) (h _ hx) horder hop, haccepts o hne]

/-- An argument that is no number is found, whatever the best number is when its turn comes. -/
theorem extremeFrom_of_none (f : Builtin) (keep : Ordering) (best : Number) {args : List Value}
    (h : ∃ v ∈ args, v.number? = none) :
    ∃ w ∈ args, w.number? = none ∧
      extremeFrom f keep best args = .error (.invalidArgument f (.kind .number w.kind)) := by
  induction args generalizing best with
  | nil =>
    obtain ⟨v, hv, -⟩ := h
    cases hv
  | cons v args ih =>
    cases hnumber : v.number? with
    | none =>
      refine ⟨v, List.mem_cons_self, hnumber, ?_⟩
      rw [extremeFrom, numberOf_of_none f hnumber]
    | some n =>
      have hlater : ∃ w ∈ args, w.number? = none := by
        obtain ⟨w, hw, hnone⟩ := h
        rcases List.mem_cons.1 hw with rfl | hw
        · rw [hnumber] at hnone
          cases hnone
        · exact ⟨w, hw, hnone⟩
      obtain ⟨w, hw, hnone, herror⟩ := ih (better keep best n) hlater
      refine ⟨w, List.mem_cons_of_mem v hw, hnone, ?_⟩
      rw [Value.eq_toValue_of_number? hnumber, extremeFrom, numberOf_toValue]
      exact herror

/-- The first argument may be taken as one more that is compared with itself. -/
theorem exists_extreme_eq (f : Builtin) (keep : Ordering) (first : Value) (more : List Value) :
    ∃ best, extreme f keep first more = extremeFrom f keep best (first :: more) := by
  cases h : numberOf f first with
  | error e =>
    refine ⟨.int 0, ?_⟩
    rw [extreme, extremeFrom, h]
  | ok n =>
    refine ⟨n, ?_⟩
    rw [extreme, extremeFrom, h]
    simp only [ite_self]

theorem extreme_of_none (f : Builtin) (keep : Ordering) {first : Value} {more : List Value}
    (h : ∃ v ∈ first :: more, v.number? = none) :
    ∃ w ∈ first :: more, w.number? = none ∧
      extreme f keep first more = .error (.invalidArgument f (.kind .number w.kind)) := by
  obtain ⟨best, hbest⟩ := exists_extreme_eq f keep first more
  rw [hbest]
  exact extremeFrom_of_none f keep best h

end Builtin

/-- **Extreme arguments.** For one or more numbers, none of them a double that is no number, `min`
returns one of its arguments that is at most each of them, and `max` one that is at least each of them.
If some argument is no number, both fail and name the kind of such an argument. -/
theorem min_max_extreme :
    (∀ args : List Value, args ≠ [] → (∀ v ∈ args, v.InFamily .numbers) →
      (∃ r ∈ args, Builtin.min.call args = .ok r ∧
        ∀ x ∈ args, BinaryOp.lessEqual.Gives r x true) ∧
      (∃ r ∈ args, Builtin.max.call args = .ok r ∧
        ∀ x ∈ args, BinaryOp.greaterEqual.Gives r x true)) ∧
    (∀ args : List Value, (∃ v ∈ args, v.number? = none) →
      (∃ w ∈ args, w.number? = none ∧
        Builtin.min.call args = .error (.invalidArgument .min (.kind .number w.kind))) ∧
      (∃ w ∈ args, w.number? = none ∧
        Builtin.max.call args = .error (.invalidArgument .max (.kind .number w.kind)))) := by
  refine ⟨?_, ?_⟩
  · intro args hne hargs
    obtain ⟨first, more, rfl⟩ := List.exists_cons_of_ne_nil hne
    exact ⟨Builtin.exists_extreme .min (by decide) (by decide) (by decide) hargs,
      Builtin.exists_extreme .max (by decide) (by decide) (by decide) hargs⟩
  · intro args hargs
    have hne : args ≠ [] := by
      obtain ⟨v, hv, -⟩ := hargs
      exact List.ne_nil_of_mem hv
    obtain ⟨first, more, rfl⟩ := List.exists_cons_of_ne_nil hne
    exact ⟨Builtin.extreme_of_none .min .lt hargs, Builtin.extreme_of_none .max .gt hargs⟩

/-- Two integers and a double that equals both of them. -/
def roundedArguments : List Value :=
  [.int 9007199254740993, .float twoTo53, .int 9007199254740992]

/-- The smallest comes last, behind a double that it equals and that the first kept out. A text is no
argument, wherever it stands. -/
theorem min_max_extreme_roundedArguments :
    (∀ v ∈ roundedArguments, v.InFamily .numbers) ∧
    Builtin.min.call roundedArguments = .ok (.int 9007199254740992) ∧
    (∀ x ∈ roundedArguments, BinaryOp.lessEqual.Gives (.int 9007199254740992) x true) ∧
    Builtin.max.call [.int 1, .text "2", .float twoTo53] =
      .error (.invalidArgument .max (.kind .number .text)) := by
  obtain ⟨hnumbers, hother⟩ := min_max_extreme
  have hargs : ∀ v ∈ roundedArguments, v.InFamily .numbers := by
    have hnumber : twoTo53.isNaN = false := by decide +kernel
    simp only [roundedArguments, List.forall_mem_cons]
    exact ⟨⟨rfl, List.forall_mem_nil _⟩, ⟨rfl, List.forall_mem_singleton.2 hnumber⟩,
      ⟨rfl, List.forall_mem_nil _⟩, List.forall_mem_nil _⟩
  have hmin : Builtin.min.call roundedArguments = .ok (.int 9007199254740992) := by
    have hkept : Builtin.better .lt (.int 9007199254740993) (.float twoTo53) =
        .int 9007199254740993 := if_neg (by decide +kernel)
    have htaken : Builtin.better .lt (.int 9007199254740993) (.int 9007199254740992) =
        .int 9007199254740992 := if_pos (by decide)
    have hfold := Builtin.extreme_numbers .min .lt (.int 9007199254740993)
      [.float twoTo53, .int 9007199254740992]
    rwa [List.foldl_cons, hkept, List.foldl_cons, htaken] at hfold
  refine ⟨hargs, hmin, ?_, ?_⟩
  · obtain ⟨r, -, hr, hle⟩ := (hnumbers roundedArguments (by simp [roundedArguments]) hargs).1
    obtain rfl : r = .int 9007199254740992 := by simpa [hr] using hmin
    exact hle
  · obtain ⟨w, hw, hnone, herror⟩ :=
      (hother [.int 1, .text "2", .float twoTo53] ⟨.text "2", by simp, rfl⟩).2
    rw [herror]
    simp only [List.mem_cons, List.not_mem_nil, or_false] at hw
    rcases hw with rfl | rfl | rfl
    · cases hnone
    · rfl
    · cases hnone

end Reckoner
