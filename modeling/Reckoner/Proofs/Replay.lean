import Reckoner.Proofs.Assignment
import Reckoner.Session.Request

/-!
# A run is its assignments

A host program acts on a session as often as it likes and in any order: it processes lines, for
their outcomes or for texts, and asks for views and other texts. `Session.record` keeps of such a run
every action with its answer and with the assignment it made, if any.

Nothing else than the assignments is left of a run (`after_replays`). They are made in their order,
so the names of the start keep their places, new names follow in the order in which they were first
assigned, and every name has the value last assigned to it. Actions without an assignment can be
left out of a run; the others are answered as before, and the run ends in the same session.
-/

set_option autoImplicit false

namespace Reckoner

open Token

/-! ## Many assignments -/

namespace Environment

/-- The environment with some names bound anew, one after the other. -/
def assignAll (env : Environment) (made : List (String × Value)) : Environment :=
  made.foldl (fun env a => env.assign a.1 a.2) env

/-- Names stay where they are, and free names come behind them in the order of their first
assignment. -/
theorem names_assignAll (env : Environment) (made : List (String × Value)) :
    (env.assignAll made).names =
      env.names ++ ((made.map Prod.fst).filter (· ∉ env.names)).eraseDups := by
  induction made generalizing env with
  | nil => simp [assignAll, List.eraseDups]
  | cons a made ih =>
    have hlater := ih (env.assign a.1 a.2)
    rw [names_assign] at hlater
    by_cases h : a.1 ∈ env.names
    · rw [if_pos h] at hlater
      simpa [assignAll, h] using hlater
    · -- The name goes to the end, and later assignments to it are not the first.
      rw [if_neg h] at hlater
      have hfirst : ((a :: made).map Prod.fst).filter (· ∉ env.names) =
          a.1 :: (made.map Prod.fst).filter (· ∉ env.names) := by
        rw [List.map_cons, List.filter_cons_of_pos (by simpa using h)]
      have hrest : ((made.map Prod.fst).filter (· ∉ env.names)).filter (fun n => !n == a.1) =
          (made.map Prod.fst).filter (· ∉ env.names ++ [a.1]) := by
        rw [List.filter_filter]
        apply List.filter_congr
        intro n _
        by_cases hn : n = a.1
        · simp [hn]
        · simp [hn, beq_eq_false_iff_ne.2 hn]
      rw [hfirst, List.eraseDups_cons, hrest, List.append_cons]
      exact hlater

/-- A name has the value last assigned to it, or else the value it had. -/
theorem get?_assignAll (env : Environment) (made : List (String × Value)) (name : String) :
    (env.assignAll made).get? name = (made.reverse.lookup name).or (env.get? name) := by
  induction made generalizing env with
  | nil => rfl
  | cons a made ih =>
    obtain ⟨n, v⟩ := a
    have hlater := ih (env.assign n v)
    rw [get?_assign] at hlater
    rw [List.reverse_cons, List.lookup_append, Option.or_assoc]
    by_cases h : name = n
    · rw [if_pos h] at hlater
      have hlast : [(n, v)].lookup name = some v := by simp [h]
      rw [hlast, Option.some_or]
      exact hlater
    · rw [if_neg h] at hlater
      have hlast : [(n, v)].lookup name = none := by
        simp [List.lookup_cons, beq_eq_false_iff_ne.2 h]
      rw [hlast, Option.none_or]
      exact hlater

end Environment

/-! ## Runs -/

/-- What a host program does with a session: it processes a line for its outcome, or makes a
request for a text. -/
inductive Action where
  | process (line : String)
  | request (r : Request)

namespace Action

/-- What an action is answered with. -/
inductive Answer where
  | outcome (o : Outcome)
  | text (t : String)

/-- The line that an action processes. -/
def line? : Action → Option String
  | .process line => some line
  | .request (.process line) => some line
  | .request _ => none

end Action

/-- One action of a run, what it was answered with, and the assignment that it made. -/
structure Entry where
  action : Action
  answer : Action.Answer
  assigned : Option (String × Value)

namespace Session

/-- The answer to an action, and the session after it. -/
def perform (s : Session) : Action → Action.Answer × Session
  | .process line => (.outcome (s.process line).1, (s.process line).2)
  | .request r => (.text (s.answer r).1, (s.answer r).2)

/-- The assignment that an action makes. -/
def made? (s : Session) (a : Action) : Option (String × Value) :=
  a.line?.bind s.assigned?

/-- What happens in a run of actions, one after the other. -/
def record (s : Session) : List Action → List Entry
  | [] => []
  | a :: more => ⟨a, (s.perform a).1, s.made? a⟩ :: (s.perform a).2.record more

/-- The session after a run of actions. -/
def after (s : Session) (actions : List Action) : Session :=
  actions.foldl (fun s a => (s.perform a).2) s

/-- Nothing but an assignment changes a session, whatever the action. -/
theorem perform_snd (s : Session) (a : Action) : (s.perform a).2 = s.update (s.made? a) := by
  cases a with
  | process line => exact s.process_snd line
  | request r =>
    cases r with
    | process line => exact s.process_snd line
    | help | environmentJson | environmentPairs | exampleJson | version => rfl

/-- A run makes its assignments in their order, and does nothing else to the environment. -/
theorem environment_after (s : Session) (actions : List Action) :
    (s.after actions).environment =
      s.environment.assignAll ((s.record actions).filterMap Entry.assigned) := by
  induction actions generalizing s with
  | nil => rfl
  | cons a more ih =>
    have hlater := ih (s.perform a).2
    have hstep := s.perform_snd a
    cases hmade : s.made? a with
    | none =>
      rw [hmade] at hstep
      simpa [after, record, hmade, hstep, update] using hlater
    | some assignment =>
      rw [hmade] at hstep
      simpa [after, record, hmade, hstep, update, Environment.assignAll] using hlater

/-- A name that was assigned in a run is a word that stands for a name. -/
theorem word_of_assigned {s : Session} {actions : List Action} {entry : Entry} {name : String}
    {v : Value} (h : entry ∈ s.record actions) (hassigned : entry.assigned = some (name, v)) :
    Word name.toList (.name name) := by
  induction actions generalizing s with
  | nil => simp [record] at h
  | cons a more ih =>
    rcases List.mem_cons.1 h with rfl | h
    · obtain ⟨line, -, hline⟩ := Option.bind_eq_some_iff.1 hassigned
      obtain ⟨⟨nameSpan, e, hread⟩, -⟩ := assigned?_cases hline
      exact word_of_assign hread
    · exact ih h

end Session

/-! ## Leaving out actions -/

/-- Some entries without others, none of which made an assignment. -/
inductive Thinned : List Entry → List Entry → Prop
  | nil : Thinned [] []
  | keep {entry : Entry} {entries kept : List Entry} :
      Thinned entries kept → Thinned (entry :: entries) (entry :: kept)
  | drop {entry : Entry} {entries kept : List Entry} :
      entry.assigned = none → Thinned entries kept → Thinned (entry :: entries) kept

/-- Without some actions that made no assignment a run goes as before. -/
theorem Session.record_of_thinned {s : Session} {actions : List Action} {kept : List Entry}
    (h : Thinned (s.record actions) kept) :
    s.record (kept.map Entry.action) = kept ∧
      s.after (kept.map Entry.action) = s.after actions := by
  induction actions generalizing s kept with
  | nil =>
    cases h
    exact ⟨rfl, rfl⟩
  | cons a more ih =>
    cases h with
    | @keep _ _ kept hlater =>
      obtain ⟨hrecord, hafter⟩ := ih hlater
      refine ⟨?_, hafter⟩
      rw [List.map_cons, record, hrecord]
    | drop hmade hlater =>
      -- The action left the session as it was, so the others start from the same session.
      have hstep : (s.perform a).2 = s := by
        have hnone : s.made? a = none := hmade
        rw [perform_snd, hnone]
        rfl
      rw [hstep] at hlater
      obtain ⟨hrecord, hafter⟩ := ih hlater
      refine ⟨hrecord, ?_⟩
      rw [hafter]
      simp only [after, List.foldl_cons, hstep]

/-- Whatever is done with a session, the environment at the end is the one at the start with the
assignments of the run made in their order: those of the lines that say an assignment and give a
value. No name is bound twice, the names of the start keep their places, new names follow in the
order of their first assignment, and every name has its last value, which a line of the name alone
gives. A run without some of the actions that made no assignment has the same answers to the other
actions and ends in the same session. -/
theorem after_replays (s : Session) (actions : List Action) :
    let made := (s.record actions).filterMap Entry.assigned
    let final := s.after actions
    final.environment = s.environment.assignAll made ∧
    final.environment.names.Nodup ∧
    final.environment.names = s.environment.names ++
      ((made.map Prod.fst).filter (· ∉ s.environment.names)).eraseDups ∧
    (∀ name, final.environment.get? name =
      (made.reverse.lookup name).or (s.environment.get? name)) ∧
    (∀ (name : String) (v : Value) (before behind : String),
      made.reverse.lookup name = some v → Blank before.toList → Blank behind.toList →
      final.process (before ++ name ++ behind) = (.ok (some v), final)) ∧
    ∀ kept, Thinned (s.record actions) kept →
      s.record (kept.map Entry.action) = kept ∧ s.after (kept.map Entry.action) = final := by
  intro made final
  have hfinal : final.environment = s.environment.assignAll made := s.environment_after actions
  have hget : ∀ name, final.environment.get? name =
      (made.reverse.lookup name).or (s.environment.get? name) := by
    intro name
    rw [hfinal, Environment.get?_assignAll]
  refine ⟨hfinal, final.environment.distinct, ?_, hget, ?_, ?_⟩
  · rw [hfinal, Environment.names_assignAll]
  · intro name v before behind hlast hbefore hbehind
    have hvalue : final.environment.get? name = some v := by
      rw [hget, hlast, Option.some_or]
    obtain ⟨later, earlier, hmade, -⟩ := List.lookup_eq_some_iff.1 hlast
    have hmem : (name, v) ∈ made := by
      rw [← List.mem_reverse, hmade]
      simp
    obtain ⟨entry, hentry, hassigned⟩ := List.mem_filterMap.1 hmem
    exact Session.process_name hvalue (Session.word_of_assigned hentry hassigned) hbefore hbehind
  · intro kept hkept
    exact Session.record_of_thinned hkept

/-- A run in which a line fails at the evaluation, a view is asked for, and a name is assigned
twice. -/
def overwritingRun : List Action :=
  [.process "x = 1", .process "x = y", .request .environmentPairs, .request (.process "y = 2"),
    .process "x = x + y"]

/-- The last value counts, and neither the failure nor the view leaves a trace. -/
theorem after_replays_overwritingRun :
    let start : Session := ⟨.empty⟩
    let final := start.after overwritingRun
    (start.record overwritingRun).filterMap Entry.assigned =
      [("x", .int 1), ("y", .int 2), ("x", .int 3)] ∧
    final.process " x" = (.ok (some (.int 3)), final) ∧
    start.after [.process "x = 1", .request (.process "y = 2"), .process "x = x + y"] = final := by
  intro start final
  have hmade : (start.record overwritingRun).filterMap Entry.assigned =
      [("x", .int 1), ("y", .int 2), ("x", .int 3)] := by decide +kernel
  have hfailure : (start.perform (.process "x = 1")).2.made? (.process "x = y") = none := by
    decide +kernel
  obtain ⟨-, -, -, -, hname, hthinned⟩ := after_replays start overwritingRun
  refine ⟨hmade, hname "x" (.int 3) " " "" ?_ (by decide) (by decide), ?_⟩
  · rw [hmade]
    rfl
  · exact (hthinned _ (.keep (.drop hfailure (.drop rfl (.keep (.keep .nil)))))).2

end Reckoner
