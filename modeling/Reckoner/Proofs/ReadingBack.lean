import Reckoner.Proofs.Integer
import Reckoner.Proofs.Reading

/-!
# Shown values read back

A plain value that is shown on its own reads back as the same value (`process_display_plain`).
Plain values have no doubles in them, no least integer, which is no literal with a minus sign before
it, and only characters that a quoted text shows as themselves or by an escape that can be read.

The way back passes through every stage. `Spells v us e` collects what has to be known of the tokens
`us` that a value is shown as and of the expression `e` they are read as: a negative integer comes
back through the minus sign, everything else as a literal or a list.
-/

set_option autoImplicit false

namespace Reckoner

open Grammar Token

/-! ## Plain values -/

/-- The escapes that can be read. -/
def Text.escapes : List (List Char) :=
  [['\\', '"'], ['\\', '\\'], ['\\', 'n'], ['\\', 't']]

/-- A quoted text shows the character as itself or by an escape that can be read. -/
def Text.isPlain (c : Char) : Bool :=
  quotedChar c == [c] || escapes.contains (quotedChar c)

namespace Value

mutual

/-- No doubles, no least integer, and no character that cannot be read back. -/
def isPlain : Value → Bool
  | .int n => n != Int64.minValue
  | .float _ => false
  | .text s => s.toList.all Text.isPlain
  | .bool _ => true
  | .list items => areAllPlain items

/-- Every one of the values is plain. -/
def areAllPlain : List Value → Bool
  | [] => true
  | v :: more => v.isPlain && areAllPlain more

end

mutual

/-- How deep lists and minus signs nest in a value as it is shown. -/
def nesting : Value → Nat
  | .int n => if n.toInt < 0 then 1 else 0
  | .float _ => 0
  | .text _ => 0
  | .bool _ => 0
  | .list items => nestingAll items + 1

/-- How deep the deepest of the values nests. -/
def nestingAll : List Value → Nat
  | [] => 0
  | v :: more => max v.nesting (nestingAll more)

end

end Value

/-! ## Words -/

/-- An escape that can be read stands for the character that was shown by it. -/
theorem Text.exists_unescape {c : Char} (h : quotedChar c ∈ escapes) :
    ∃ x, quotedChar c = ['\\', x] ∧ unescape? x = some c := by
  unfold quotedChar at h ⊢
  split at h
  · simp [escapes] at h
  · exact ⟨'t', rfl, rfl⟩
  · simp [escapes] at h
  · exact ⟨'n', rfl, rfl⟩
  · exact ⟨'\\', rfl, rfl⟩
  · exact ⟨'"', rfl, rfl⟩
  · split at h
    · simp [escapes] at h
    · -- The code point follows `u` and a brace.
      simp [escapes, codePointEscape] at h

/-- A plain character, quoted, reads back. -/
theorem Text.quotation_cons {c : Char} {written text : List Char} (hc : isPlain c = true)
    (h : Quotation written text) : Quotation (quotedChar c ++ written) (c :: text) := by
  simp only [isPlain, Bool.or_eq_true, beq_iff_eq, List.contains_iff_mem] at hc
  rcases hc with hc | hc
  · rw [hc]
    refine .plain ?_ ?_ h
    · rintro rfl
      exact absurd hc (by decide)
    · rintro rfl
      exact absurd hc (by decide)
  · obtain ⟨x, hx, hunescape⟩ := exists_unescape hc
    rw [hx]
    exact .escape hunescape h

theorem Text.quotation_quoted {text : List Char} (h : text.all isPlain = true) :
    Quotation (text.flatMap quotedChar ++ ['"']) text := by
  induction text with
  | nil => exact .close
  | cons c text ih =>
    simp only [List.all_cons, Bool.and_eq_true] at h
    rw [List.flatMap_cons, List.append_assoc]
    exact quotation_cons h.1 (ih h.2)

theorem word_digits {n : Nat} {m : Int64} (h : m.toInt = n) :
    Word (Nat.toDigits 10 n) (.int m) := by
  refine .int ⟨Nat.toDigits_ne_nil, ?_⟩ ?_
  · exact fun c hc => Nat.isDigit_of_mem_toDigits (by decide) (by decide) hc
  · rw [Numeral.value_toDigits]
    exact Integer.fit?_eq_some_iff.2 h

theorem word_truth (b : Bool) : Word (Truth.chars b) (.bool b) := by
  cases b with
  | false => exact @Word.word 'f' ['a', 'l', 's', 'e'] rfl (List.all_eq_true.1 rfl)
  | true => exact @Word.word 't' ['r', 'u', 'e'] rfl (List.all_eq_true.1 rfl)

theorem word_quoted {s : String} (h : s.toList.all Text.isPlain = true) :
    Word (Text.quotedChars s.toList) (.text s) := by
  have hword := Word.text (Text.quotation_quoted h)
  rwa [String.ofList_toList] at hword

/-! ## Values as tokens -/

/-- The tokens are read as an expression with the value, which nests as deep as the value does. -/
structure Spells (v : Value) (us : List Token) (e : Expr) : Prop where
  operand : Operand us e
  value : ∀ env, e.eval env = .ok v
  nesting : e.nesting = v.nesting
  operators : e.operators = 0

/-- The tokens are read as arguments with the values. -/
structure SpellsAll (vs : List Value) (us : List Token) (es : List Expr) : Prop where
  arguments : Arguments (Expression Operand) us es
  values : ∀ env, Expr.evalAll env es = .ok vs
  nesting : Expr.nestingAll es = Value.nestingAll vs
  operators : Expr.operatorsAll es = 0

/-- A token whose kind is the literal of a value spells it. -/
theorem Spells.literal {v : Value} {t : Token} (ht : Literal t.kind v) (hv : v.nesting = 0) :
    Spells v [t] (.literal v t.span) where
  operand := .literal ht
  value _ := rfl
  nesting := hv.symm
  operators := rfl

theorem SpellsAll.none : SpellsAll [] [] [] where
  arguments := .none
  values _ := rfl
  nesting := rfl
  operators := rfl

theorem SpellsAll.last {v : Value} {us : List Token} {e : Expr} (h : Spells v us e) :
    SpellsAll [v] us [e] where
  arguments := .last (.of_operand h.operand)
  values env := by simp only [Expr.evalAll, h.value]
  nesting := by simp only [Expr.nestingAll, Value.nestingAll, h.nesting]
  operators := by simp only [Expr.operatorsAll, h.operators]

theorem SpellsAll.cons {v : Value} {vs : List Value} {us ws : List Token} {t : Token} {e : Expr}
    {es : List Expr} (h : Spells v us e) (ht : t.kind = .comma) (hs : SpellsAll vs ws es) :
    SpellsAll (v :: vs) (us ++ t :: ws) (e :: es) where
  arguments := .cons (.of_operand h.operand) ht hs.arguments
  values env := by simp only [Expr.evalAll, h.value, hs.values]
  nesting := by simp only [Expr.nestingAll, Value.nestingAll, h.nesting, hs.nesting]
  operators := by simp only [Expr.operatorsAll, h.operators, hs.operators]

theorem Spells.list {vs : List Value} {us : List Token} {es : List Expr} {o c : Token}
    (ho : o.kind = .opening .square) (h : SpellsAll vs us es) (hc : c.kind = .closing .square) :
    Spells (.list vs) (o :: (us ++ [c])) (.list es (o.span.merge c.span)) where
  operand := .list ho h.arguments hc
  value env := by simp only [Expr.eval, h.values]
  nesting := by simp only [Expr.nesting, Value.nesting, h.nesting]
  operators := by simp only [Expr.operators, h.operators]

/-- A negative integer comes back as the negative of its absolute value. -/
theorem Spells.negative {n m : Int64} {t u : Token} (ht : t.kind = .minus) (hu : u.kind = .int m)
    (hneg : n.toInt < 0) (hm : n.toInt = -m.toInt) :
    Spells (.int n) [t, u] (.unary .neg (.literal (.int m) u.span) (t.span.merge u.span)) where
  operand := .unary ht (.literal (by rw [hu]; exact .int m))
  value env := by simp only [Expr.eval, UnaryOp.apply, Integer.neg?_eq_some_iff.2 hm]
  nesting := by simp only [Expr.nesting, Value.nesting, if_pos hneg]
  operators := rfl

/-! ## Lines of shown values -/

section Shown

variable {rest : List Char} {ts : List Token} {offset : Nat}

theorem lexes_symbol {word : List Char} {kind : Token.Kind} (hword : (word, kind) ∈ symbols)
    (hend : kind.EndsBefore rest) (h : Lexes rest (offset + byteLength word) ts) :
    ∃ t : Token, t.kind = kind ∧ Lexes (word ++ rest) offset (t :: ts) :=
  ⟨_, rfl, .cons (.symbol hword) hend h⟩

theorem lexes_int {n : Int64} (hn : n ≠ Int64.minValue) (hrest : ∀ c ∈ rest.head?, Separates c)
    (h : Lexes rest (offset + byteLength (Integer.chars n)) ts) :
    ∃ us e, Spells (.int n) us e ∧ Lexes (Integer.chars n ++ rest) offset (us ++ ts) := by
  have hmin : n.toInt ≠ -9223372036854775808 := fun h =>
    hn (Int64.toInt_inj.1 (h.trans (by decide)))
  obtain ⟨hlow, hhigh⟩ := Integer.toInt_mem_range n
  simp only [Integer.least, Integer.greatest] at hlow hhigh
  unfold Integer.chars at h ⊢
  split at h
  · next hneg =>
    obtain ⟨m, -, hm⟩ := @Integer.exists_fit n.toInt.natAbs (by simp only [Integer.least]; omega)
      (by simp only [Integer.greatest]; omega)
    rw [byteLength, ← Nat.add_assoc] at h
    have hdigits := Lexes.cons (word_digits hm) (Kind.endsBefore_of_separator hrest) h
    obtain ⟨t, ht, hsign⟩ := @lexes_symbol _ _ _ ['-'] .minus (by decide) trivial hdigits
    rw [if_pos hneg]
    exact ⟨_, _, .negative ht rfl hneg (by omega), hsign⟩
  · next hpos =>
    rw [if_neg hpos]
    have hdigits : Word (Nat.toDigits 10 n.toInt.natAbs) (.int n) := word_digits (by omega)
    exact ⟨_, _, .literal (.int n) (if_neg hpos),
      .cons hdigits (Kind.endsBefore_of_separator hrest) h⟩

mutual

/-- A plain value among others is read as tokens that spell it. -/
theorem lexes_item (v : Value) (hv : v.isPlain = true) {rest : List Char} {ts : List Token}
    {offset : Nat} (hrest : ∀ c ∈ rest.head?, Separates c)
    (h : Lexes rest (offset + byteLength v.itemChars) ts) :
    ∃ us e, Spells v us e ∧ Lexes (v.itemChars ++ rest) offset (us ++ ts) := by
  match v with
  | .int n =>
    rw [Value.isPlain, bne_iff_ne] at hv
    exact lexes_int hv hrest h
  | .float _ => simp [Value.isPlain] at hv
  | .text s =>
    rw [Value.isPlain] at hv
    exact ⟨_, _, .literal (.text s) rfl, .cons (word_quoted hv) trivial h⟩
  | .bool b =>
    exact ⟨_, _, .literal (.bool b) rfl,
      .cons (word_truth b) (Kind.endsBefore_of_separator hrest) h⟩
  | .list items =>
    rw [Value.isPlain] at hv
    rw [Value.itemChars] at h ⊢
    rw [byteLength, byteLength_append, ← Nat.add_assoc, ← Nat.add_assoc] at h
    -- The line is put together from its end.
    obtain ⟨close, hclose, hend⟩ :=
      @lexes_symbol _ _ _ [']'] (.closing .square) (by decide) trivial h
    have hbracket : ∀ c ∈ ([']'] ++ rest).head?, Separates c := by
      rintro c ⟨⟩
      exact ⟨rfl, by decide, by decide⟩
    obtain ⟨us, es, hspells, hitems⟩ := lexes_items items hv hbracket hend
    obtain ⟨opening, hopening, hline⟩ :=
      @lexes_symbol _ _ _ ['['] (.opening .square) (by decide) trivial hitems
    exact ⟨_, _, .list hopening hspells hclose, by simpa using hline⟩

/-- Plain values in a row are read as tokens that spell them. -/
theorem lexes_items (vs : List Value) (hvs : Value.areAllPlain vs = true) {rest : List Char}
    {ts : List Token} {offset : Nat} (hrest : ∀ c ∈ rest.head?, Separates c)
    (h : Lexes rest (offset + byteLength (Value.itemsChars vs)) ts) :
    ∃ us es, SpellsAll vs us es ∧ Lexes (Value.itemsChars vs ++ rest) offset (us ++ ts) := by
  match vs with
  | [] => exact ⟨[], [], .none, by simpa [Value.itemsChars, byteLength] using h⟩
  | [v] =>
    simp only [Value.areAllPlain, Bool.and_true] at hvs
    simp only [Value.itemsChars, Value.moreItemsChars, List.append_nil] at h ⊢
    obtain ⟨us, e, hspells, hitem⟩ := lexes_item v hvs hrest h
    exact ⟨us, [e], .last hspells, hitem⟩
  | v :: w :: more =>
    rw [Value.areAllPlain, Bool.and_eq_true] at hvs
    have hchars : Value.itemsChars (v :: w :: more) =
        v.itemChars ++ ([','] ++ (' ' :: Value.itemsChars (w :: more))) := rfl
    rw [hchars] at h ⊢
    simp only [byteLength_append, byteLength, ← Nat.add_assoc, Nat.add_zero] at h
    obtain ⟨ws, es, hspells', hitems⟩ := lexes_items (w :: more) hvs.2 hrest h
    obtain ⟨t, ht, hcomma⟩ :=
      @lexes_symbol _ _ _ [','] .comma (by decide) trivial (hitems.blank rfl)
    have hseparator : ∀ c ∈ ([','] ++ ' ' :: (Value.itemsChars (w :: more) ++ rest)).head?,
        Separates c := by
      rintro c ⟨⟩
      exact ⟨rfl, by decide, by decide⟩
    obtain ⟨us, e, hspells, hitem⟩ := lexes_item v hvs.1 hseparator hcomma
    exact ⟨us ++ t :: ws, e :: es, .cons hspells ht hspells', by simpa using hitem⟩

end

end Shown

/-- A plain value that is no text, shown and read as a line, is the outcome of that line, if it
nests at most 64 deep; and the line leaves the session as it is. -/
theorem process_display_plain (s : Session) {v : Value} (hkind : v.kind ≠ .text)
    (hplain : v.isPlain = true) (hnesting : v.nesting ≤ 64) :
    s.process v.display = (.ok (some v), s) := by
  have hfinish : Lexes [] (0 + byteLength v.itemChars) [finishAt (byteLength v.itemChars)] := by
    simpa [byteLength] using @Lexes.finish [] (byteLength v.itemChars) (by simp [Blank])
  obtain ⟨us, e, hspells, hline⟩ := lexes_item v hplain (by simp) hfinish
  have hdisplay : v.display.toList = v.itemChars := by
    cases v with
    | text => simp [Value.kind] at hkind
    | int | float | bool | list => simp [Value.display]
  have hread : Session.read v.display = .ok (.expr e) := by
    rw [Session.read_eq_ok_iff, hdisplay]
    refine ⟨us, _, by simpa using hline, .expr (.of_operand hspells.operand), ?_, ?_⟩
    · rw [Statement.nesting, hspells.nesting]
      exact hnesting
    · rw [Statement.operators, hspells.operators]
      exact Nat.zero_le _
  simp only [Session.process, hread, Statement.eval, hspells.value]

/-- A list of a negative integer, a text with a quote and a line break, a truth value and an empty
list. -/
def mixedList : Value :=
  .list [.int (-3), .text "say \"hi\"\n", .bool true, .list []]

theorem process_display_mixedList :
    mixedList.kind ≠ .text ∧ mixedList.isPlain = true ∧ mixedList.nesting ≤ 64 ∧
      Session.initial.process mixedList.display = (.ok (some mixedList), Session.initial) := by
  have hplain : mixedList.isPlain = true := by decide +kernel
  have hnesting : mixedList.nesting ≤ 64 := by decide
  exact ⟨by decide, hplain, hnesting, process_display_plain _ (by decide) hplain hnesting⟩

end Reckoner
