import Reckoner.Proofs.FiniteResults
import Reckoner.Proofs.Quoted
import Reckoner.Proofs.Shortest

/-!
# Shown lists can be told apart

Two lists of finite values that are shown alike are the same list (`display_list_inj`). A text
inside a list is quoted, and a double always has a point, so no item looks like an item of another
kind.

The first character of an item says whether it is a number, a text, a truth value or a list
(`Value.itemChars_opening`), and where the item ends can be seen for each of them. The main
induction is on one of two values, with what stands behind them left open
(`Value.itemChars_append_inj`).
-/

set_option autoImplicit false

namespace Reckoner

open Token

/-! ## Numbers -/

namespace Number

/-- The number as it is shown. -/
def chars (n : Number) : List Char :=
  n.toValue.itemChars

/-- The number is finite. -/
def IsFinite (n : Number) : Prop :=
  n.toValue.AllFinite

/-- A number that is shown consists of digits, a sign and a point. -/
theorem inNumber_of_mem {n : Number} (hn : n.IsFinite) {c : Char} (h : c ∈ n.chars) :
    inNumber c = true := by
  cases n with
  | int n =>
    rcases Integer.mem_chars h with rfl | h
    · rfl
    · exact inNumber_of_isDigit h
  | float x =>
    obtain ⟨whole, fraction, hchars, hparts⟩ :=
      Binary64.shownWith_parts (Value.allFinite_float.1 hn)
    change c ∈ Binary64.shownWith Decimal.positionalWithFraction x at h
    rw [hchars, List.mem_append, List.mem_append, List.mem_cons] at h
    rcases h with h | h | rfl | h
    · rw [Integer.eq_minus_of_mem_sign (Binary64.signChars_mem x) h]
      rfl
    · exact inNumber_of_isDigit (hparts.digits.2 c h)
    · rfl
    · exact inNumber_of_isDigit (hparts.decimals.2 c h)

/-- Only a double is shown with a point. -/
theorem point_mem_iff {n : Number} (hn : n.IsFinite) : '.' ∈ n.chars ↔ ∃ x, n = .float x := by
  cases n with
  | int n =>
    constructor
    · intro h
      rcases Integer.mem_chars h with h | h
      · exact absurd h (by decide)
      · exact absurd h (by decide)
    · rintro ⟨x, h⟩
      simp at h
  | float x =>
    obtain ⟨whole, fraction, hchars, -⟩ := Binary64.shownWith_parts (Value.allFinite_float.1 hn)
    refine ⟨fun _ => ⟨x, rfl⟩, fun _ => ?_⟩
    change '.' ∈ Binary64.shownWith Decimal.positionalWithFraction x
    rw [hchars]
    simp

/-- Two finite numbers that are shown alike are the same number, of the same kind. -/
theorem chars_inj {m n : Number} (hm : m.IsFinite) (hn : n.IsFinite) (h : m.chars = n.chars) :
    m = n := by
  have hpoint : (∃ x, m = .float x) ↔ ∃ x, n = .float x := by
    rw [← point_mem_iff hm, ← point_mem_iff hn, h]
  cases m with
  | int m =>
    cases n with
    | int n =>
      have hread := Numeral.integer?_chars m
      rw [show Integer.chars m = Integer.chars n from h, Numeral.integer?_chars n] at hread
      rw [Option.some.inj hread]
    | float y => simp at hpoint
  | float x =>
    cases n with
    | int n => simp at hpoint
    | float y =>
      have hread := Numeral.float?_shownWith (Value.allFinite_float.1 hm)
      rw [show Binary64.shownWith Decimal.positionalWithFraction x =
          Binary64.shownWith Decimal.positionalWithFraction y from h,
        Numeral.float?_shownWith (Value.allFinite_float.1 hn)] at hread
      rw [Option.some.inj hread]

end Number

/-! ## Kinds of items -/

/-- What the first character of an item says about it. -/
inductive Opening where
  | number
  | text
  | truth (b : Bool)
  | list
deriving DecidableEq

namespace Opening

/-- The kind of item that begins with a character. -/
def ofChar (c : Char) : Opening :=
  if c = '"' then .text
  else if c = '[' then .list
  else if c = 't' then .truth true
  else if c = 'f' then .truth false
  else .number

/-- The kind of item that a value is shown as. -/
def ofValue : Value → Opening
  | .int _ => .number
  | .float _ => .number
  | .text _ => .text
  | .bool b => .truth b
  | .list _ => .list

theorem ofChar_of_inNumber {c : Char} (h : inNumber c = true) : ofChar c = .number := by
  have hne : ∀ d : Char, inNumber d = false → c ≠ d := fun _ => ne_of_inNumber h
  simp [ofChar, hne '"' rfl, hne '[' rfl, hne 't' rfl, hne 'f' rfl]

end Opening

namespace Value

theorem exists_number_of_opening {v : Value} (h : Opening.ofValue v = .number) :
    ∃ n : Number, v = n.toValue := by
  cases v with
  | int n => exact ⟨.int n, rfl⟩
  | float x => exact ⟨.float x, rfl⟩
  | text | bool | list => simp [Opening.ofValue] at h

/-- The first character of an item shows what kind of item it is, and does not close a list. -/
theorem itemChars_opening {v : Value} (hv : v.AllFinite) :
    ∃ c more, v.itemChars = c :: more ∧ Opening.ofChar c = Opening.ofValue v ∧ c ≠ ']' := by
  have hnumber : ∀ n : Number, n.IsFinite → n.chars ≠ [] →
      ∃ c more, n.chars = c :: more ∧ Opening.ofChar c = .number ∧ c ≠ ']' := by
    intro n hn hne
    obtain ⟨c, more, hchars⟩ := List.exists_cons_of_ne_nil hne
    have hc : inNumber c = true := by
      apply Number.inNumber_of_mem hn
      rw [hchars]
      exact List.mem_cons_self
    refine ⟨c, more, hchars, Opening.ofChar_of_inNumber hc, ?_⟩
    rintro rfl
    exact absurd hc (by decide)
  cases v with
  | int n =>
    apply hnumber (.int n) hv
    obtain ⟨sign, -, hchars⟩ := Integer.chars_parts n
    change Integer.chars n ≠ []
    simp [hchars]
  | float x =>
    apply hnumber (.float x) hv
    exact List.ne_nil_of_mem ((Number.point_mem_iff (n := .float x) hv).2 ⟨x, rfl⟩)
  | text s => exact ⟨'"', _, rfl, rfl, by decide⟩
  | bool b =>
    cases b with
    | true => exact ⟨'t', _, rfl, rfl, by decide⟩
    | false => exact ⟨'f', _, rfl, rfl, by decide⟩
  | list items => exact ⟨'[', _, rfl, rfl, by decide⟩

/-! ## Lists -/

/-- Behind an item stands a comma or the bracket that closes the list. -/
theorem endsNumber_moreItemsChars (items : List Value) (rest : List Char) :
    EndsNumber (moreItemsChars items ++ ']' :: rest) := by
  cases items with
  | nil =>
    rintro c ⟨⟩
    rfl
  | cons item more =>
    rintro c ⟨⟩
    rfl

mutual

/-- An item that is shown, and where it ends, can be seen from what is shown. -/
theorem itemChars_append_inj (v w : Value) (hv : v.AllFinite) (hw : w.AllFinite)
    {r r' : List Char} (hr : EndsNumber r) (hr' : EndsNumber r')
    (h : v.itemChars ++ r = w.itemChars ++ r') : v = w ∧ r = r' := by
  -- Both begin with the same character, so they are items of the same kind.
  have hopening : Opening.ofValue v = Opening.ofValue w := by
    obtain ⟨c, more, hc, hcv, -⟩ := itemChars_opening hv
    obtain ⟨d, more', hd, hdw, -⟩ := itemChars_opening hw
    rw [hc, hd] at h
    rw [← hcv, ← hdw, (List.cons.inj h).1]
  have hnumber : ∀ m : Number, v = m.toValue → v = w ∧ r = r' := by
    rintro m rfl
    obtain ⟨n, rfl⟩ := exists_number_of_opening (hopening.symm.trans (by cases m <;> rfl))
    obtain ⟨hchars, hrest⟩ := run_append_inj (fun _ => Number.inNumber_of_mem hv) hr
      (fun _ => Number.inNumber_of_mem hw) hr' h
    rw [Number.chars_inj hv hw hchars]
    exact ⟨rfl, hrest⟩
  match v with
  | .int n => exact hnumber (.int n) rfl
  | .float x => exact hnumber (.float x) rfl
  | .text s =>
    cases w with
    | text t =>
      obtain ⟨hst, hrest⟩ := (Quoting.body_flatMap Text.spells_quotedChar s.toList).append_inj
        (Quoting.body_flatMap Text.spells_quotedChar t.toList) (enclosed_append_inj h)
      rw [String.toList_inj.1 hst]
      exact ⟨rfl, hrest⟩
    | int | float | bool | list => simp [Opening.ofValue] at hopening
  | .bool a =>
    cases w with
    | bool b =>
      obtain rfl : a = b := Opening.truth.inj hopening
      exact ⟨rfl, List.append_cancel_left h⟩
    | int | float | text | list => simp [Opening.ofValue] at hopening
  | .list items =>
    cases w with
    | list others =>
      obtain ⟨rfl, hrest⟩ := itemsChars_append_inj items others (allFinite_list.1 hv)
        (allFinite_list.1 hw) (enclosed_append_inj h)
      exact ⟨rfl, hrest⟩
    | int | float | text | bool => simp [Opening.ofValue] at hopening

/-- The items of a list, up to the bracket that closes it. -/
theorem itemsChars_append_inj (vs ws : List Value) (hvs : ∀ v ∈ vs, v.AllFinite)
    (hws : ∀ w ∈ ws, w.AllFinite) {r r' : List Char}
    (h : itemsChars vs ++ ']' :: r = itemsChars ws ++ ']' :: r') : vs = ws ∧ r = r' := by
  match vs, ws with
  | [], [] => exact ⟨rfl, (List.cons.inj h).2⟩
  | [], w :: ws =>
    obtain ⟨c, more, hc, -, hclose⟩ := itemChars_opening (hws w List.mem_cons_self)
    simp only [itemsChars, hc, List.cons_append, List.nil_append, List.cons.injEq] at h
    exact absurd h.1.symm hclose
  | v :: vs, [] =>
    obtain ⟨c, more, hc, -, hclose⟩ := itemChars_opening (hvs v List.mem_cons_self)
    simp only [itemsChars, hc, List.cons_append, List.nil_append, List.cons.injEq] at h
    exact absurd h.1 hclose
  | v :: vs, w :: ws =>
    rw [List.forall_mem_cons] at hvs hws
    simp only [itemsChars, List.append_assoc] at h
    obtain ⟨rfl, hmore⟩ := itemChars_append_inj v w hvs.1 hws.1
      (endsNumber_moreItemsChars vs r) (endsNumber_moreItemsChars ws r') h
    obtain ⟨rfl, hrest⟩ := moreItemsChars_append_inj vs ws hvs.2 hws.2 hmore
    exact ⟨rfl, hrest⟩

/-- Further items of a list, up to the bracket that closes it. -/
theorem moreItemsChars_append_inj (vs ws : List Value) (hvs : ∀ v ∈ vs, v.AllFinite)
    (hws : ∀ w ∈ ws, w.AllFinite) {r r' : List Char}
    (h : moreItemsChars vs ++ ']' :: r = moreItemsChars ws ++ ']' :: r') : vs = ws ∧ r = r' := by
  match vs, ws with
  | [], [] => exact ⟨rfl, (List.cons.inj h).2⟩
  | [], w :: ws => simp [moreItemsChars] at h
  | v :: vs, [] => simp [moreItemsChars] at h
  | v :: vs, w :: ws =>
    rw [List.forall_mem_cons] at hvs hws
    simp only [moreItemsChars, List.cons_append, List.append_assoc, List.cons.injEq, true_and] at h
    obtain ⟨rfl, hmore⟩ := itemChars_append_inj v w hvs.1 hws.1
      (endsNumber_moreItemsChars vs r) (endsNumber_moreItemsChars ws r') h
    obtain ⟨rfl, hrest⟩ := moreItemsChars_append_inj vs ws hvs.2 hws.2 hmore
    exact ⟨rfl, hrest⟩

end

end Value

/-- **Unique display.** Two lists whose doubles are all finite, at any depth, are shown alike only
if they are the same list: the same items of the same kinds, the same texts and the same doubles
bit for bit. -/
theorem display_list_inj {vs ws : List Value} (hvs : (Value.list vs).AllFinite)
    (hws : (Value.list ws).AllFinite) :
    (Value.list vs).display = (Value.list ws).display ↔ vs = ws := by
  constructor
  · intro h
    have hchars : (Value.list vs).itemChars ++ [] = (Value.list ws).itemChars ++ [] := by
      rw [List.append_nil, List.append_nil]
      exact String.ofList_inj.1 h
    have hend : EndsNumber [] := by
      rintro c ⟨⟩
    obtain ⟨hlist, -⟩ := Value.itemChars_append_inj _ _ hvs hws hend hend hchars
    exact Value.list.inj hlist
  · rintro rfl
    rfl

/-- An integer, a double, a text and a truth value inside a nested list. -/
def mixedItems : List Value :=
  [.list [.int 1, .float (Float.ofBits 0x3ff0000000000000), .text "1", .bool true]]

/-- The text `1", "1` beside a list: quoted, it cannot pass for two texts. -/
def quotedItems : List Value :=
  [.list [.int 1, .int 1, .text "1\", \"1", .bool true]]

theorem display_list_inj_mixedItems :
    (Value.list mixedItems).AllFinite ∧ (Value.list quotedItems).AllFinite ∧
      (Value.list mixedItems).display ≠ (Value.list quotedItems).display := by
  have hmixed : (Value.list mixedItems).AllFinite := by
    have hone : Binary64.isFinite (Float.ofBits 0x3ff0000000000000) = true := by decide
    simp [mixedItems, Value.allFinite_list, Value.allFinite_float, hone]
  have hquoted : (Value.list quotedItems).AllFinite := by
    simp [quotedItems, Value.allFinite_list]
  refine ⟨hmixed, hquoted, fun h => ?_⟩
  have heq := (display_list_inj hmixed hquoted).1 h
  simp [mixedItems, quotedItems] at heq

end Reckoner
