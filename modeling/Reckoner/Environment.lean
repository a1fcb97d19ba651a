import Reckoner.Value.Display
import Reckoner.Value.Json

/-!
# Environments

An environment binds names to values and keeps the order in which names were first bound. Binding
a name again replaces its value in place. It can be shown as a JSON object or as one pair per line.
-/

set_option autoImplicit false

namespace Reckoner

namespace Environment

/-- Bindings with one name bound anew: in its place, or at the end if it was free. -/
def bind (name : String) (value : Value) : List (String × Value) → List (String × Value)
  | [] => [(name, value)]
  | (n, v) :: more => if n = name then (n, value) :: more else (n, v) :: bind name value more

/-- Names keep their places, and a free name goes to the end. -/
theorem map_fst_bind (name : String) (value : Value) (bindings : List (String × Value)) :
    (bind name value bindings).map Prod.fst =
      if name ∈ bindings.map Prod.fst then bindings.map Prod.fst
      else bindings.map Prod.fst ++ [name] := by
  induction bindings with
  | nil => rfl
  | cons binding more ih =>
    by_cases h : binding.1 = name
    · simp [bind, h]
    · have h' : ¬ name = binding.1 := fun heq => h heq.symm
      simp only [bind, h, if_false, List.map_cons, List.mem_cons, h', false_or, ih]
      split <;> rfl

theorem nodup_bind {bindings : List (String × Value)} (h : (bindings.map Prod.fst).Nodup)
    (name : String) (value : Value) : ((bind name value bindings).map Prod.fst).Nodup := by
  rw [map_fst_bind]
  split
  · exact h
  · next hfree =>
    apply List.nodup_append.2
    refine ⟨h, List.pairwise_singleton _ _, ?_⟩
    intro n hn m hm heq
    rw [List.mem_singleton] at hm
    exact hfree (hm ▸ heq ▸ hn)

end Environment

/-- Names and their values, in the order of their first binding. No name is bound twice. -/
@[ext]
structure Environment where
  bindings : List (String × Value)
  distinct : (bindings.map Prod.fst).Nodup

namespace Environment

/-- No bindings. -/
def empty : Environment where
  bindings := []
  distinct := List.nodup_nil

/-- The constants with the doubles nearest to them. -/
def constants : List (String × Float) :=
  [("pi", Float.ofBits 0x400921fb54442d18),
   ("e", Float.ofBits 0x4005bf0a8b145769),
   ("tau", Float.ofBits 0x401921fb54442d18)]

/-- The constants alone. -/
def initial : Environment where
  bindings := constants.map fun (name, x) => (name, .float x)
  distinct := by simp [constants]

/-- The environment with one name bound anew. -/
def assign (env : Environment) (name : String) (value : Value) : Environment where
  bindings := bind name value env.bindings
  distinct := nodup_bind env.distinct name value

/-- The value of a name. -/
def get? (env : Environment) (name : String) : Option Value :=
  env.bindings.lookup name

/-- The name is bound. -/
def contains (env : Environment) (name : String) : Bool :=
  (env.get? name).isSome

/-- How many names are bound. -/
def size (env : Environment) : Nat :=
  env.bindings.length

/-- No name is bound. -/
def isEmpty (env : Environment) : Bool :=
  env.bindings.isEmpty

/-- The environment that assigns some names in order, starting from no bindings. -/
def ofList (bindings : List (String × Value)) : Environment :=
  bindings.foldl (fun env (name, value) => env.assign name value) empty

/-- Equality without regard to order: the same names are bound to the same values. -/
def same (a b : Environment) : Bool :=
  a.size == b.size &&
    a.bindings.all fun (name, value) =>
      match b.get? name with
      | some other => value.same other
      | none => false

/-- The bindings as the members of a JSON object. -/
def toJson (env : Environment) : Json :=
  .object (env.bindings.map fun (name, value) => (name, value.toJson))

/-- The bindings as a JSON text. -/
def jsonText (env : Environment) : String :=
  env.toJson.pretty

/-- One binding as a pair. -/
def pairText (name : String) (value : Value) : String :=
  "(" ++ name ++ ", " ++ value.display ++ ")"

/-- The bindings as pairs, one per line. -/
def pairsText (env : Environment) : String :=
  String.intercalate "\n" (env.bindings.map fun (name, value) => pairText name value)

end Environment

end Reckoner
