import Reckoner.Proofs.Reachable
import Reckoner.Proofs.UniqueDisplay

/-!
# The pairs of an environment, line by line

The bindings of an environment are shown as pairs with a line break between them. A name has no
line break in it, and neither has any value that is shown as an item: numbers, truth values,
lists, and the texts inside lists (`Value.newline_notMem_itemChars`). A text that is bound by
itself is shown as it is, so each line break in it makes one line more.

Main statement: how many lines the pairs take, and when they are one line each
(`splitOn_pairsText`). A session can bind a text for which they are not
(`splitOn_pairsText_brokenLine`).
-/

set_option autoImplicit false

namespace Reckoner

/-! ## Pieces between line breaks -/

/-- There is one piece more than there are line breaks. -/
theorem length_splitOn_newline (chars : List Char) :
    (chars.splitOn '\n').length = chars.count '\n' + 1 := by
  unfold List.splitOn
  induction chars with
  | nil => rfl
  | cons c more ih =>
    rw [List.splitOnP_cons_eq_if_modifyHead, List.count_cons]
    split
    · rw [List.length_cons, ih]
    · rw [List.length_modifyHead, ih, Nat.add_zero]

/-- Texts with line breaks between them are divided at these and inside the texts. -/
theorem splitOn_intercalate_newline {texts : List (List Char)} (h : texts ≠ []) :
    (['\n'].intercalate texts).splitOn '\n' = texts.flatMap fun text => text.splitOn '\n' := by
  induction texts with
  | nil => exact absurd rfl h
  | cons text more ih =>
    cases more with
    | nil => simp
    | cons next more =>
      have htail := ih (List.cons_ne_nil next more)
      rw [List.intercalate_cons_cons, List.flatMap_cons, ← htail, List.append_assoc]
      exact List.splitOnP_append_cons text (['\n'].intercalate (next :: more))
        (beq_self_eq_true '\n')

/-! ## Line breaks in what is shown -/

namespace Value

theorem newline_notMem_number {n : Number} (h : n.IsFinite) : '\n' ∉ n.chars := by
  intro hmem
  exact absurd (Number.inNumber_of_mem h hmem) (by decide)

mutual

/-- An item of a list is shown on one line. -/
theorem newline_notMem_itemChars (v : Value) (hv : v.AllFinite) : '\n' ∉ v.itemChars := by
  match v with
  | .int n => exact newline_notMem_number (n := .int n) hv
  | .float x => exact newline_notMem_number (n := .float x) hv
  | .text s => exact Text.newline_notMem_quotedChars s.toList
  | .bool true => decide
  | .bool false => decide
  | .list items =>
    have hitems := newline_notMem_itemsChars items (allFinite_list.1 hv)
    simpa [itemChars] using hitems

theorem newline_notMem_itemsChars (vs : List Value) (hvs : ∀ v ∈ vs, v.AllFinite) :
    '\n' ∉ itemsChars vs := by
  match vs with
  | [] => simp [itemsChars]
  | v :: more =>
    obtain ⟨hv, hmore⟩ := List.forall_mem_cons.1 hvs
    simp [itemsChars, newline_notMem_itemChars v hv, newline_notMem_moreItemsChars more hmore]

theorem newline_notMem_moreItemsChars (vs : List Value) (hvs : ∀ v ∈ vs, v.AllFinite) :
    '\n' ∉ moreItemsChars vs := by
  match vs with
  | [] => simp [moreItemsChars]
  | v :: more =>
    obtain ⟨hv, hmore⟩ := List.forall_mem_cons.1 hvs
    simp [moreItemsChars, newline_notMem_itemChars v hv, newline_notMem_moreItemsChars more hmore]

end

/-- The line breaks in a value as it is shown on its own: those of a text. -/
def lineBreaks : Value → Nat
  | .text s => s.toList.count '\n'
  | _ => 0

theorem count_newline_display {v : Value} (hv : v.AllFinite) :
    v.display.toList.count '\n' = v.lineBreaks := by
  have hitem : (String.ofList v.itemChars).toList.count '\n' = 0 := by
    rw [String.toList_ofList]
    exact List.count_eq_zero.2 (newline_notMem_itemChars v hv)
  cases v with
  | text s => rfl
  | int | float | bool | list => exact hitem

end Value

theorem newline_notMem_of_isName {name : String} (h : IsName name) : '\n' ∉ name.toList := by
  intro hmem
  rcases h.2.1 '\n' hmem with hletter | hdigit
  · exact absurd hletter (by unfold IsLetter; decide)
  · exact absurd hdigit (by decide)

/-- The line breaks of a pair are those of its value. -/
theorem count_newline_pairText {name : String} {v : Value} (hname : IsName name)
    (hv : v.AllFinite) : (Environment.pairText name v).toList.count '\n' = v.lineBreaks := by
  have hcount := List.count_eq_zero.2 (newline_notMem_of_isName hname)
  simp [Environment.pairText, List.count_append, hcount, Value.count_newline_display hv]

/-! ## Lines of a session -/

/-- The pairs of the bindings, in their order. -/
def Environment.pairs (env : Environment) : List (List Char) :=
  env.bindings.map fun binding => (pairText binding.1 binding.2).toList

theorem Environment.toList_pairsText (env : Environment) :
    env.pairsText.toList = ['\n'].intercalate env.pairs := by
  rw [pairsText, String.toList_intercalate, List.map_map]
  rfl

namespace Session

variable {s : Session}

/-- The constants are bound, so there is a pair. -/
theorem Sound.pairs_ne_nil (hs : s.Sound) : s.environment.pairs ≠ [] := by
  intro hnil
  obtain ⟨more, hmore⟩ := hs.constants
  have hbindings : s.environment.bindings = [] := List.map_eq_nil_iff.1 hnil
  simp [Environment.names, hbindings] at hmore

theorem Sound.count_newline (hs : s.Sound) {binding : String × Value}
    (hbinding : binding ∈ s.environment.bindings) :
    (Environment.pairText binding.1 binding.2).toList.count '\n' = binding.2.lineBreaks :=
  count_newline_pairText (hs.named binding.1 (List.mem_map_of_mem hbinding))
    (hs.finite binding hbinding)

/-- Each binding takes one line, and one more for each line break in a text. -/
theorem Sound.length_splitOn_pairsText (hs : s.Sound) :
    (s.environment.pairsText.toList.splitOn '\n').length = s.environment.size +
      (s.environment.bindings.map fun binding => binding.2.lineBreaks).sum := by
  have hlengths : s.environment.pairs.map (fun pair => (pair.splitOn '\n').length) =
      s.environment.bindings.map fun binding => binding.2.lineBreaks + 1 := by
    rw [Environment.pairs, List.map_map]
    apply List.map_congr_left
    intro binding hbinding
    rw [Function.comp_apply, length_splitOn_newline, hs.count_newline hbinding]
  rw [Environment.toList_pairsText, splitOn_intercalate_newline hs.pairs_ne_nil,
    List.length_flatMap, hlengths, List.sum_map_add, List.map_const', List.sum_replicate_nat,
    Nat.mul_one, Nat.add_comm]
  rfl

/-- If no text has a line break, the lines are the pairs. -/
theorem Sound.splitOn_pairsText_of_lines (hs : s.Sound)
    (h : ∀ binding ∈ s.environment.bindings, binding.2.lineBreaks = 0) :
    s.environment.pairsText.toList.splitOn '\n' = s.environment.pairs := by
  rw [Environment.toList_pairsText]
  apply List.splitOn_intercalate '\n' ?_ hs.pairs_ne_nil
  intro pair hpair
  obtain ⟨binding, hbinding, rfl⟩ := List.mem_map.1 hpair
  apply List.count_eq_zero.1
  rw [hs.count_newline hbinding, h binding hbinding]

end Session

/-- **Lines of pairs.** In a session that started with the constants alone and has processed any
lines, the pairs of the bindings take one line each and one line more for each line break in a
text that is bound by itself. So the lines are the pairs, in their order, exactly if no such text
has a line break. -/
theorem splitOn_pairsText (lines : List String) :
    let env := (Session.initial.processAll lines).environment
    (env.pairsText.toList.splitOn '\n').length =
        env.size + (env.bindings.map fun binding => binding.2.lineBreaks).sum ∧
      (env.pairsText.toList.splitOn '\n' = env.pairs ↔
        ∀ name text, (name, Value.text text) ∈ env.bindings → '\n' ∉ text.toList) := by
  intro env
  have hs := Session.sound_initial.processAll lines
  have hlength : (env.pairsText.toList.splitOn '\n').length =
      env.size + (env.bindings.map fun binding => binding.2.lineBreaks).sum :=
    hs.length_splitOn_pairsText
  refine ⟨hlength, ?_, ?_⟩
  · intro hpairs name text hbinding
    -- As many lines as bindings leave no line break for any of them.
    have hsum : (env.bindings.map fun binding => binding.2.lineBreaks).sum = 0 := by
      rw [hpairs, Environment.pairs, List.length_map, Environment.size] at hlength
      omega
    have hzero := List.sum_eq_zero_iff.1 hsum _ (List.mem_map_of_mem hbinding)
    exact List.count_eq_zero.1 hzero
  · intro hlines
    apply hs.splitOn_pairsText_of_lines
    rintro ⟨name, v⟩ hbinding
    cases v with
    | text text => exact List.count_eq_zero.2 (hlines name text hbinding)
    | int | float | bool | list => rfl

/-- A line that binds a text of two lines. -/
def brokenLine : String :=
  "x = \"a\\nb\""

/-- Four bindings can be shown on five lines. -/
theorem splitOn_pairsText_brokenLine :
    let env := (Session.initial.processAll [brokenLine]).environment
    env.size = 4 ∧ (env.pairsText.toList.splitOn '\n').length = 5 := by
  intro env
  have hread : Session.read brokenLine =
      .ok (.assign "x" ⟨0, 1⟩ (.literal (.text "a\nb") ⟨4, 10⟩)) := by cbv
  have henv : env.bindings = Environment.initial.bindings ++ [("x", .text "a\nb")] := by
    simp only [env, Session.processAll, List.foldl, Session.process, hread]
    rfl
  have hlength := (Session.sound_initial.processAll [brokenLine]).length_splitOn_pairsText
  refine ⟨?_, ?_⟩
  · rw [Environment.size, henv]
    rfl
  · rw [hlength]
    change env.bindings.length + _ = 5
    rw [henv]
    rfl

end Reckoner
