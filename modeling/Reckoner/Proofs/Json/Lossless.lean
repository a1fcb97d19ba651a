import Reckoner.Environment
import Reckoner.Proofs.FiniteResults
import Reckoner.Proofs.Json.Formatter

/-!
# The JSON text of an environment

The tree of an environment has its bindings as members, in their order and with their values
(`Environment.bindings?_toJson`), and a text is read as one tree at most. So the text that a lawful
formatter writes of an environment with finite doubles loses nothing of the bindings
(`Json.Formatter.Lawful.text_lossless`). The JSON text of an environment is one of these texts
(`jsonText_lossless`).
-/

set_option autoImplicit false

namespace Reckoner

/-! ## Values and bindings of a tree -/

namespace Value

mutual

/-- The value that a tree stands for. `null` and objects stand for none. -/
def ofJson? : Json → Option Value
  | .null => none
  | .bool b => some (.bool b)
  | .int n => some (.int n)
  | .float x => some (.float x)
  | .string s => some (.text s)
  | .array items => (ofJsonAll? items).map .list
  | .object _ => none

/-- The values that several trees stand for. -/
def ofJsonAll? : List Json → Option (List Value)
  | [] => some []
  | item :: more => do
    let v ← ofJson? item
    let vs ← ofJsonAll? more
    return v :: vs

end

mutual

/-- The tree of a value stands for it. -/
theorem ofJson?_toJson (v : Value) : ofJson? v.toJson = some v := by
  match v with
  | .int _ | .float _ | .text _ | .bool _ => rfl
  | .list items => rw [toJson, ofJson?, ofJsonAll?_toJsonAll items, Option.map_some]

theorem ofJsonAll?_toJsonAll (vs : List Value) : ofJsonAll? (toJsonAll vs) = some vs := by
  match vs with
  | [] => rfl
  | v :: vs => simp [toJsonAll, ofJsonAll?, ofJson?_toJson v, ofJsonAll?_toJsonAll vs]

end

mutual

theorem floats_toJson (v : Value) : v.toJson.floats = v.floats := by
  match v with
  | .int _ | .float _ | .text _ | .bool _ => rfl
  | .list items => exact itemFloats_toJsonAll items

theorem itemFloats_toJsonAll (vs : List Value) : Json.itemFloats (toJsonAll vs) = floatsAll vs := by
  match vs with
  | [] => rfl
  | v :: vs =>
    rw [toJsonAll, Json.itemFloats, floatsAll, floats_toJson v, itemFloats_toJsonAll vs]

end

end Value

/-- The bindings that the members of an object stand for, in their order. -/
def Json.bindings? : Json → Option (List (String × Value))
  | .object members => members.mapM fun (name, json) => (Value.ofJson? json).map (name, ·)
  | _ => none

namespace Environment

theorem bindings?_toJson (env : Environment) : env.toJson.bindings? = some env.bindings := by
  rw [toJson, Json.bindings?]
  induction env.bindings with
  | nil => rfl
  | cons binding more ih => simp [Value.ofJson?_toJson, ih]

/-- The doubles of the members are those of the values. -/
theorem floats_toJson (env : Environment) :
    env.toJson.floats = env.bindings.flatMap fun binding => binding.2.floats := by
  rw [toJson, Json.floats]
  induction env.bindings with
  | nil => rfl
  | cons binding more ih =>
    rw [List.map_cons, Json.memberFloats, ih, Value.floats_toJson, List.flatMap_cons]

theorem areFinite_toJson {env : Environment} (h : env.AllFinite) :
    Json.AreFinite env.toJson.floats := by
  intro x hx
  rw [floats_toJson] at hx
  obtain ⟨binding, hbinding, hx⟩ := List.mem_flatMap.1 hx
  exact h binding hbinding x hx

end Environment

/-- Whatever lawful formatter writes the text of an environment with finite doubles, the text is a
JSON text, and the bindings are read from it. -/
theorem Json.Formatter.Lawful.text_lossless {f : Json.Formatter} (hf : f.Lawful)
    {env : Environment} (h : env.AllFinite) :
    (∃ json, Json.Reads (f.text env.toJson) json) ∧
      ∀ json, Json.Reads (f.text env.toJson) json → json.bindings? = some env.bindings := by
  have hreads : Json.Reads (f.text env.toJson) env.toJson := hf.reads_text (env.areFinite_toJson h)
  refine ⟨⟨env.toJson, hreads⟩, ?_⟩
  intro json hjson
  rw [hjson.unique hreads]
  exact env.bindings?_toJson

/-- **The JSON text loses nothing.** The text of an environment whose doubles are all finite is a
JSON text, and whatever tree it is read as has the bindings of the environment as its members: the
same names in the same order, with the same values. -/
theorem jsonText_lossless {env : Environment} (h : env.AllFinite) :
    (∃ json, Json.Reads env.jsonText json) ∧
      ∀ json, Json.Reads env.jsonText json → json.bindings? = some env.bindings :=
  Json.Formatter.lawful_pretty.text_lossless h

/-- Names that no line can bind, a text with characters of every escape, and an integer beside a
double, an empty list and an empty text. -/
def oddEnvironment : Environment where
  bindings := [("", .text "\x00\x1f\n\t\"\\/ü😀"), ("a \"b\"\n", .bool false),
    ("[", .list [.int 1, .float (Float.ofBits 0x3ff0000000000000), .list [], .list [.text ""]])]
  distinct := by simp

theorem jsonText_lossless_oddEnvironment :
    oddEnvironment.AllFinite ∧ ∃ json, Json.Reads oddEnvironment.jsonText json ∧
      json.bindings? = some oddEnvironment.bindings := by
  have hfinite : oddEnvironment.AllFinite := by
    have hone : Binary64.isFinite (Float.ofBits 0x3ff0000000000000) = true := by decide
    simp [Environment.AllFinite, oddEnvironment, Value.allFinite_list, Value.allFinite_float, hone]
  obtain ⟨⟨json, hjson⟩, hbindings⟩ := jsonText_lossless hfinite
  exact ⟨hfinite, json, hjson, hbindings json hjson⟩

end Reckoner
