import Reckoner.Proofs.Reading

/-!
# What a line does to a session

A session changes by assignments alone. `Session.assigned?` is the name and the value that a line
assigns, absent for a line that fails, is blank or only says an expression; the session behind the
line is the session before it with that assignment made (`Session.process_snd`). Whatever is kept by
one assignment is then kept by every line.
-/

set_option autoImplicit false

namespace Reckoner

open Token

namespace Environment

/-- The names that are bound, in order. -/
def names (env : Environment) : List String :=
  env.bindings.map Prod.fst

theorem lookup_bind (name : String) (value : Value) (bindings : List (String × Value))
    (n : String) :
    (bind name value bindings).lookup n =
      if n = name then some value else bindings.lookup n := by
  -- `lookup` compares with `==`, `bind` with `=`.
  have hbeq : ∀ {k : String}, ¬ n = k → (n == k) = false := fun h => beq_eq_false_iff_ne.2 h
  induction bindings with
  | nil =>
    by_cases h : n = name
    · simp [bind, h]
    · simp [bind, h, List.lookup_cons, hbeq h]
  | cons binding more ih =>
    obtain ⟨m, v⟩ := binding
    by_cases hm : m = name
    · by_cases hn : n = name
      · simp [bind, hm, hn]
      · simp [bind, hm, hn, List.lookup_cons, hbeq hn]
    · by_cases hn : n = m
      · simp [bind, hm, hn]
      · simp [bind, hm, List.lookup_cons, hbeq hn, ih]

/-- Names keep their places, and a free name goes to the end. -/
theorem names_assign (env : Environment) (name : String) (value : Value) :
    (env.assign name value).names =
      if name ∈ env.names then env.names else env.names ++ [name] :=
  map_fst_bind name value env.bindings

/-- The assigned name has the new value, and every other name the value it had. -/
theorem get?_assign (env : Environment) (name : String) (value : Value) (n : String) :
    (env.assign name value).get? n = if n = name then some value else env.get? n :=
  lookup_bind name value env.bindings n

end Environment

namespace Session

/-- The name and the value that a line assigns: the line says an assignment, and its outcome is the
value. -/
def assigned? (s : Session) (line : String) : Option (String × Value) :=
  match read line, (s.process line).1 with
  | .ok (.assign name _ _), .ok (some v) => some (name, v)
  | _, _ => none

/-- The session with an assignment made, or as it is. -/
def update (s : Session) : Option (String × Value) → Session
  | some (name, v) => ⟨s.environment.assign name v⟩
  | none => s

theorem assigned?_cases {s : Session} {line name : String} {v : Value}
    (h : s.assigned? line = some (name, v)) :
    (∃ nameSpan e, read line = .ok (.assign name nameSpan e)) ∧
      (s.process line).1 = .ok (some v) := by
  unfold assigned? at h
  split at h
  · next n nameSpan e w hread hprocess =>
    obtain ⟨rfl, rfl⟩ : n = name ∧ w = v := by simpa using h
    exact ⟨⟨nameSpan, e, hread⟩, hprocess⟩
  · simp at h

/-- Nothing but an assignment changes a session. -/
theorem process_snd (s : Session) (line : String) :
    (s.process line).2 = s.update (s.assigned? line) := by
  cases hread : read line with
  | error f => simp [assigned?, process, hread, update]
  | ok statement =>
    cases statement with
    | blank => simp [assigned?, process, hread, update, Statement.eval]
    | expr e =>
      cases heval : e.eval s.environment <;>
        simp [assigned?, process, hread, update, Statement.eval, heval]
    | assign n nameSpan e =>
      cases heval : e.eval s.environment <;>
        simp [assigned?, process, hread, update, Statement.eval, heval]

/-- A line of a bound name alone gives the value of the name, and changes nothing. -/
theorem process_name {s : Session} {name : String} {v : Value} (h : s.environment.get? name = some v)
    (hname : Word name.toList (.name name)) {before behind : String}
    (hbefore : Blank before.toList) (hbehind : Blank behind.toList) :
    s.process (before ++ name ++ behind) = (.ok (some v), s) := by
  have hline : (before ++ name ++ behind).toList =
      before.toList ++ (name.toList ++ behind.toList) := by
    rw [String.toList_append, String.toList_append, List.append_assoc]
  obtain ⟨nameSpan, hread⟩ := read_name hname hbefore hbehind hline
  simp only [process, hread, Statement.eval, Expr.eval, h]

end Session

end Reckoner
