import Reckoner.Json
import Reckoner.Numeral
import Reckoner.Proofs.Decimal
import Reckoner.Proofs.Quoted

/-!
# The grammar of JSON texts

Derivations of trees from characters, after the rules

  text     = element
  element  = ws value ws
  value    = "null" | "true" | "false" | number | string
           | "[" elements "]" | "{" members "}"
  elements = ws | element { "," element }
  members  = ws | member { "," member }
  member   = ws string ws ":" element
  string   = quote { character } quote
  number   = [ "-" ] digits [ "." digits ] [ ( "e" | "E" ) [ "+" | "-" ] digits ]

where the digits before the point have no zero in front. A number without point and exponent is an
integer, any other a double; the members of an object stay in the order of the text.

Main statement: a text has at most one tree (`Reads.unique`). It is proved for one derivation at a
time and with any text behind it: a phrase that `Fixes` its reading leaves no other reading, and
each rule passes this on from its parts to the whole.
-/

set_option autoImplicit false

namespace Reckoner.Json

open Token

namespace Grammar

/-! ## Strings -/

/-- The character that a letter behind a backslash stands for. -/
def letterEscape? : Char → Option Char
  | '"' => some '"'
  | '\\' => some '\\'
  | '/' => some '/'
  | 'b' => some '\x08'
  | 'f' => some '\x0c'
  | 'n' => some '\n'
  | 'r' => some '\r'
  | 't' => some '\t'
  | _ => none

/-- The number that four hexadecimal digits stand for. -/
def CodeUnit (digits : List Char) (n : Nat) : Prop :=
  digits.length = 4 ∧ Text.hexValue? digits = some n

/-- Codes of characters: one unit, or the two halves of a surrogate pair. -/
inductive Code : List Char → Char → Prop
  | one {u : List Char} {c : Char} : CodeUnit u c.toNat → Code u c
  | two {u v : List Char} {c : Char} : 0x10000 ≤ c.toNat →
      CodeUnit u (0xd800 + (c.toNat - 0x10000) / 0x400) →
      CodeUnit v (0xdc00 + (c.toNat - 0x10000) % 0x400) → Code (u ++ '\\' :: 'u' :: v) c

theorem CodeUnit.append_inj {u v r r' : List Char} {m n : Nat} (hu : CodeUnit u m)
    (hv : CodeUnit v n) (h : u ++ r = v ++ r') : m = n ∧ r = r' := by
  obtain ⟨rfl, hrest⟩ := List.append_inj h (hu.1.trans hv.1.symm)
  exact ⟨Option.some.inj (hu.2.symm.trans hv.2), hrest⟩

/-- No character has the code of half a pair. -/
theorem toNat_ne_surrogate {c d : Char} (hd : 0x10000 ≤ d.toNat) :
    c.toNat ≠ 0xd800 + (d.toNat - 0x10000) / 0x400 := by
  have hc : c.toNat < 0xd800 ∨ 0xdfff < c.toNat ∧ c.toNat < 0x110000 := c.valid
  have hd' : d.toNat < 0xd800 ∨ 0xdfff < d.toNat ∧ d.toNat < 0x110000 := d.valid
  omega

theorem Code.append_inj {u v r r' : List Char} {c d : Char} (hu : Code u c) (hv : Code v d)
    (h : u ++ r = v ++ r') : c = d ∧ r = r' := by
  cases hu with
  | one hc =>
    cases hv with
    | one hd =>
      obtain ⟨hcode, hrest⟩ := hc.append_inj hd h
      exact ⟨Char.toNat_inj.1 hcode, hrest⟩
    | two hd hhigh _ =>
      rw [List.append_assoc] at h
      exact absurd (hc.append_inj hhigh h).1 (toNat_ne_surrogate hd)
  | two hc hhigh hlow =>
    cases hv with
    | one hd =>
      rw [List.append_assoc] at h
      exact absurd (hhigh.append_inj hd h).1.symm (toNat_ne_surrogate hc)
    | two hd hhigh' hlow' =>
      rw [List.append_assoc, List.append_assoc] at h
      -- The halves agree one by one, and together they are the code.
      obtain ⟨hupper, hrest⟩ := hhigh.append_inj hhigh' h
      obtain ⟨hlower, hrest⟩ := hlow.append_inj hlow' (List.cons.inj (List.cons.inj hrest).2).2
      refine ⟨Char.toNat_inj.1 ?_, hrest⟩
      omega

/-- How the characters of a JSON string are written. -/
def quoting : Quoting where
  Plain c := c ≠ '"' ∧ c ≠ '\\' ∧ 0x20 ≤ c.toNat
  letter? := letterEscape?
  Code := Code
  not_plain_quote h := h.1 rfl
  not_plain_backslash h := h.2.1 rfl
  letter?_u := rfl
  code_append_inj := Code.append_inj

/-- The rule `string`. -/
inductive Quoted : List Char → String → Prop
  | mk {u : List Char} {s : String} : quoting.Body u s.toList → Quoted ('"' :: (u ++ ['"'])) s

/-! ## Numbers -/

/-- The part of a number after the point. -/
inductive Fraction : List Char → Prop
  | none : Fraction []
  | some {digits : List Char} : Digits digits → Fraction ('.' :: digits)

/-- The power of ten at the end of a number. -/
inductive Exponent : List Char → Prop
  | none : Exponent []
  | some {mark : Char} {sign digits : List Char} : mark ∈ ['e', 'E'] → sign ∈ [[], ['+'], ['-']] →
      Digits digits → Exponent (mark :: (sign ++ digits))

/-- The rule `number`. -/
inductive IsNumber : List Char → Prop
  | mk {sign whole fraction exponent : List Char} : sign ∈ [[], ['-']] → Digits whole →
      Unpadded whole → Fraction fraction → Exponent exponent →
      IsNumber (sign ++ (whole ++ (fraction ++ exponent)))

/-- The number has neither a point nor an exponent. -/
def IsWhole (u : List Char) : Prop :=
  ∀ c ∈ u, c ∉ ['.', 'e', 'E']

/-- What a number stands for: without point and exponent an integer, else a double. -/
inductive Numeric : List Char → Json → Prop
  | int {u : List Char} {n : Int64} : IsNumber u → IsWhole u → Numeral.integer? u = some n →
      Numeric u (.int n)
  | float {u : List Char} {x : Float} : IsNumber u → ¬ IsWhole u → Numeral.float? u = some x →
      Numeric u (.float x)

/-! ## Trees -/

/-- The character may stand between any two parts of a text. -/
def isBlank (c : Char) : Bool :=
  c == ' ' || c == '\t' || c == '\n' || c == '\r'

/-- The rule `ws`. -/
def Blanks (u : List Char) : Prop :=
  ∀ c ∈ u, isBlank c = true

section Rules

variable {α : Type}

/-- A phrase with blanks around it. -/
inductive Padded (R : List Char → α → Prop) : List Char → α → Prop
  | mk {a u b : List Char} {x : α} : Blanks a → R u x → Blanks b → Padded R (a ++ (u ++ b)) x

/-- One or more phrases with commas between them. -/
inductive Separated (R : List Char → α → Prop) : List Char → List α → Prop
  | last {u : List Char} {x : α} : R u x → Separated R u [x]
  | cons {u v : List Char} {x : α} {xs : List α} : R u x → Separated R v xs →
      Separated R (u ++ ',' :: v) (x :: xs)

/-- Two brackets with blanks between them, or phrases with commas between them. -/
inductive Enclosed (o c : Char) (R : List Char → α → Prop) : List Char → List α → Prop
  | none {u : List Char} : Blanks u → Enclosed o c R (o :: (u ++ [c])) []
  | some {u : List Char} {xs : List α} : Separated R u xs → Enclosed o c R (o :: (u ++ [c])) xs

/-- The rule `member`. -/
inductive Member (R : List Char → Json → Prop) : List Char → String × Json → Prop
  | mk {u v : List Char} {name : String} {json : Json} : Padded Quoted u name → Padded R v json →
      Member R (u ++ ':' :: v) (name, json)

end Rules

/-- The rule `value`. -/
inductive Derives : List Char → Json → Prop
  | null : Derives ['n', 'u', 'l', 'l'] .null
  | bool (b : Bool) : Derives (Truth.chars b) (.bool b)
  | number {u : List Char} {json : Json} : Numeric u json → Derives u json
  | string {u : List Char} {s : String} : Quoted u s → Derives u (.string s)
  | array {u : List Char} {items : List Json} : Enclosed '[' ']' (Padded Derives) u items →
      Derives u (.array items)
  | object {u : List Char} {members : List (String × Json)} :
      Enclosed '\x7b' '\x7d' (Member Derives) u members → Derives u (.object members)

end Grammar

/-- The tree is read from the text. -/
def Reads (text : String) (json : Json) : Prop :=
  Grammar.Padded Grammar.Derives text.toList json

namespace Grammar

/-! ## Where a phrase ends -/

section Fixes

variable {α : Type}

/-- Whatever text begins with the characters and has a proper end behind it, its first phrase is
this one: it stands for the same thing and ends at the same place. -/
def Fixes (Ends : List Char → Prop) (R : List Char → α → Prop) (u : List Char) (x : α) : Prop :=
  ∀ ⦃v r r' : List Char⦄ ⦃y : α⦄, R v y → Ends r → Ends r' → u ++ r = v ++ r' → x = y ∧ r = r'

/-- The character closes a bracket. -/
def isClosing (c : Char) : Bool :=
  c == ']' || c == '\x7d'

/-- The character stands behind an element or the name of a member. -/
def isDelimiter (c : Char) : Bool :=
  c == ',' || c == ':' || isClosing c

theorem not_blank_of_isDelimiter {c : Char} (h : isDelimiter c = true) :
    isBlank c = false ∧ inNumber c = false := by
  simp only [isDelimiter, isClosing, Bool.or_eq_true, beq_iff_eq] at h
  rcases h with (rfl | rfl) | rfl | rfl <;> exact ⟨rfl, rfl⟩

theorem not_inNumber_of_isBlank {c : Char} (h : isBlank c = true) : inNumber c = false := by
  simp only [isBlank, Bool.or_eq_true, beq_iff_eq] at h
  rcases h with ((rfl | rfl) | rfl) | rfl <;> rfl

/-- Neither a number nor blanks go on. -/
def EndsElement (rest : List Char) : Prop :=
  ∀ c ∈ rest.head?, isDelimiter c = true

/-- A bracket is closed. -/
def Closes (rest : List Char) : Prop :=
  ∃ c more, rest = c :: more ∧ isClosing c = true

/-- The first character is no blank and closes no bracket. -/
def Begins (u : List Char) : Prop :=
  ∃ c more, u = c :: more ∧ isBlank c = false ∧ isClosing c = false

/-- There may be blanks before the first character. -/
def BeginsPadded (u : List Char) : Prop :=
  ∃ a v, u = a ++ v ∧ Blanks a ∧ Begins v

theorem Begins.head {u : List Char} (h : Begins u) (rest : List Char) :
    ∀ c ∈ (u ++ rest).head?, isBlank c = false := by
  obtain ⟨c, more, rfl, hc, -⟩ := h
  rintro d ⟨⟩
  exact hc

theorem EndsElement.head {rest : List Char} (h : EndsElement rest) :
    ∀ c ∈ rest.head?, isBlank c = false := by
  intro c hc
  exact (not_blank_of_isDelimiter (h c hc)).1

theorem Closes.endsElement {rest : List Char} (h : Closes rest) : EndsElement rest := by
  obtain ⟨c, more, rfl, hc⟩ := h
  rintro d ⟨⟩
  simp [isDelimiter, hc]

/-- Neither a blank nor a delimiter can stand in a number. -/
theorem EndsElement.endsNumber {b rest : List Char} (hb : Blanks b) (h : EndsElement rest) :
    EndsNumber (b ++ rest) := by
  intro c hc
  cases b with
  | nil => exact (not_blank_of_isDelimiter (h c hc)).2
  | cons d more =>
    obtain rfl : d = c := Option.some.inj hc
    exact not_inNumber_of_isBlank (hb d List.mem_cons_self)

variable {R : List Char → α → Prop} {u v a b : List Char} {x : α} {xs : List α}

theorem Padded.begins (hR : ∀ ⦃v : List Char⦄ ⦃y : α⦄, R v y → Begins v) (h : Padded R u x) :
    BeginsPadded u := by
  obtain ⟨ha, hu, -⟩ := h
  obtain ⟨c, more, rfl, hc⟩ := hR hu
  exact ⟨_, _, rfl, ha, c, _, rfl, hc⟩

theorem Separated.begins (hR : ∀ ⦃v : List Char⦄ ⦃y : α⦄, R v y → BeginsPadded v)
    (h : Separated R u xs) : BeginsPadded u := by
  cases h with
  | last h => exact hR h
  | cons h _ =>
    obtain ⟨a, v, rfl, ha, c, more, rfl, hc⟩ := hR h
    exact ⟨a, _, List.append_assoc .., ha, c, _, rfl, hc⟩

/-- Blanks around a phrase do not hide where it begins and ends. -/
theorem Fixes.padded (hR : ∀ ⦃v : List Char⦄ ⦃y : α⦄, R v y → Begins v) (ha : Blanks a) (hu : R u x)
    (hb : Blanks b) (h : Fixes EndsNumber R u x) :
    Fixes EndsElement (Padded R) (a ++ (u ++ b)) x := by
  rintro w r r' y ⟨ha', hv, hb'⟩ hr hr' heq
  simp only [List.append_assoc] at heq
  -- The blanks in front, the phrase and the blanks behind it are compared one after the other.
  obtain ⟨-, hfront⟩ := run_append_inj ha ((hR hu).head _) ha' ((hR hv).head _) heq
  obtain ⟨rfl, hback⟩ := h hv (hr.endsNumber hb) (hr'.endsNumber hb') hfront
  obtain ⟨-, hrest⟩ := run_append_inj hb hr.head hb' hr'.head hback
  exact ⟨rfl, hrest⟩

theorem endsElement_comma (rest : List Char) : EndsElement (',' :: rest) := by
  rintro c ⟨⟩
  rfl

theorem Closes.ne_comma {rest rest' : List Char} (h : Closes rest) : rest ≠ ',' :: rest' := by
  rintro rfl
  obtain ⟨c, more, hrest, hc⟩ := h
  obtain ⟨rfl, -⟩ := List.cons.inj hrest
  exact absurd hc (by decide)

/-- The last of several phrases has no comma behind it. -/
theorem Fixes.last (h : Fixes EndsElement R u x) : Fixes Closes (Separated R) u [x] := by
  intro w r r' ys hw hr hr' heq
  cases hw with
  | last hv =>
    obtain ⟨rfl, hrest⟩ := h hv hr.endsElement hr'.endsElement heq
    exact ⟨rfl, hrest⟩
  | cons hv _ =>
    rw [List.append_assoc] at heq
    obtain ⟨-, hrest⟩ := h hv hr.endsElement (endsElement_comma _) heq
    exact absurd hrest hr.ne_comma

theorem Fixes.cons (h : Fixes EndsElement R u x) (hmore : Fixes Closes (Separated R) v xs) :
    Fixes Closes (Separated R) (u ++ ',' :: v) (x :: xs) := by
  intro w r r' ys hw hr hr' heq
  rw [List.append_assoc] at heq
  cases hw with
  | last hv =>
    obtain ⟨-, hrest⟩ := h hv (endsElement_comma _) hr'.endsElement heq
    exact absurd hrest.symm hr'.ne_comma
  | cons hv hvs =>
    rw [List.append_assoc] at heq
    obtain ⟨rfl, hrest⟩ := h hv (endsElement_comma _) (endsElement_comma _) heq
    obtain ⟨rfl, hrest⟩ := hmore hvs hr hr' (List.cons.inj hrest).2
    exact ⟨rfl, hrest⟩

section Brackets

variable {o c : Char}

theorem closes_cons (hc : isClosing c = true) (rest : List Char) : Closes (c :: rest) :=
  ⟨c, rest, rfl, hc⟩

/-- Blanks alone between two brackets are not the beginning of a phrase. -/
theorem BeginsPadded.not_closed {r r' : List Char} (hv : BeginsPadded v) (hu : Blanks u)
    (hr : Closes r) : u ++ r ≠ v ++ r' := by
  intro heq
  obtain ⟨a, w, rfl, ha, hw⟩ := hv
  rw [List.append_assoc] at heq
  obtain ⟨-, hrest⟩ := run_append_inj hu hr.endsElement.head ha (hw.head _) heq
  -- Behind the blanks the bracket would be the first character of the phrase.
  obtain ⟨d, more, rfl, hd⟩ := hr
  obtain ⟨c, more', rfl, -, hc⟩ := hw
  obtain ⟨rfl, -⟩ := List.cons.inj hrest
  rw [hc] at hd
  exact absurd hd Bool.false_ne_true

theorem Fixes.none (hc : isClosing c = true)
    (hR : ∀ ⦃v : List Char⦄ ⦃y : α⦄, R v y → BeginsPadded v) (hu : Blanks u) :
    Fixes EndsNumber (Enclosed o c R) (o :: (u ++ [c])) [] := by
  intro w r r' ys hw _ _ heq
  have hr := closes_cons hc r
  have hr' := closes_cons hc r'
  cases hw with
  | none hv =>
    obtain ⟨-, hrest⟩ := run_append_inj hu hr.endsElement.head hv hr'.endsElement.head
      (enclosed_append_inj heq)
    exact ⟨rfl, (List.cons.inj hrest).2⟩
  | some hv => exact absurd (enclosed_append_inj heq) ((hv.begins hR).not_closed hu hr)

theorem Fixes.some (hc : isClosing c = true)
    (hR : ∀ ⦃v : List Char⦄ ⦃y : α⦄, R v y → BeginsPadded v) (hu : Separated R u xs)
    (h : Fixes Closes (Separated R) u xs) :
    Fixes EndsNumber (Enclosed o c R) (o :: (u ++ [c])) xs := by
  intro w r r' ys hw _ _ heq
  have hr := closes_cons hc r
  have hr' := closes_cons hc r'
  cases hw with
  | none hv => exact absurd (enclosed_append_inj heq).symm ((hu.begins hR).not_closed hv hr')
  | some hv =>
    obtain ⟨rfl, hrest⟩ := h hv hr hr' (enclosed_append_inj heq)
    exact ⟨rfl, (List.cons.inj hrest).2⟩

end Brackets

end Fixes

/-! ## Strings and numbers -/

theorem Quoted.begins {u : List Char} {s : String} (h : Quoted u s) : Begins u := by
  cases h with
  | mk _ => exact ⟨'"', _, rfl, rfl, rfl⟩

theorem Quoted.fixes {u : List Char} {s : String} (h : Quoted u s) :
    Fixes EndsNumber Quoted u s := by
  rintro w r r' t ⟨hv⟩ _ _ heq
  obtain ⟨hu⟩ := h
  obtain ⟨hst, hrest⟩ := hu.append_inj hv (enclosed_append_inj heq)
  exact ⟨String.toList_inj.1 hst, hrest⟩

theorem inNumber_of_mem_sign {sign : List Char} (h : sign ∈ [[], ['+'], ['-']]) :
    ∀ c ∈ sign, inNumber c = true := by
  simp only [List.mem_cons, List.not_mem_nil, or_false] at h
  rcases h with rfl | rfl | rfl <;> simp [inNumber]

theorem Fraction.inNumber {u : List Char} (h : Fraction u) : ∀ c ∈ u, inNumber c = true := by
  cases h with
  | none => simp
  | some hdigits =>
    rw [List.forall_mem_cons]
    exact ⟨rfl, fun c hc => inNumber_of_isDigit (hdigits.2 c hc)⟩

theorem Exponent.inNumber {u : List Char} (h : Exponent u) : ∀ c ∈ u, inNumber c = true := by
  cases h with
  | none => simp
  | some hmark hsign hdigits =>
    rw [List.forall_mem_cons, List.forall_mem_append]
    refine ⟨?_, inNumber_of_mem_sign hsign, fun c hc => inNumber_of_isDigit (hdigits.2 c hc)⟩
    simp only [List.mem_cons, List.not_mem_nil, or_false] at hmark
    rcases hmark with rfl | rfl <;> rfl

theorem inNumber_of_mem_minus {sign : List Char} (h : sign ∈ [[], ['-']]) :
    ∀ c ∈ sign, inNumber c = true := by
  apply inNumber_of_mem_sign
  simp only [List.mem_cons, List.not_mem_nil, or_false] at h ⊢
  exact h.imp_right Or.inr

theorem IsNumber.inNumber {u : List Char} (h : IsNumber u) : ∀ c ∈ u, inNumber c = true := by
  obtain ⟨hsign, hwhole, -, hfraction, hexponent⟩ := h
  rw [List.forall_mem_append, List.forall_mem_append, List.forall_mem_append]
  exact ⟨inNumber_of_mem_minus hsign, fun c hc => inNumber_of_isDigit (hwhole.2 c hc),
    hfraction.inNumber, hexponent.inNumber⟩

theorem IsNumber.ne_nil {u : List Char} (h : IsNumber u) : u ≠ [] := by
  obtain ⟨-, hwhole, -, -, -⟩ := h
  simp [hwhole.1]

theorem Numeric.isNumber {u : List Char} {json : Json} (h : Numeric u json) : IsNumber u := by
  cases h with
  | int hu | float hu => exact hu

/-- A number stands for one integer or for one double. -/
theorem Numeric.unique {u : List Char} {a b : Json} (ha : Numeric u a) (hb : Numeric u b) :
    a = b := by
  cases ha with
  | int _ hwhole hn =>
    cases hb with
    | int _ _ hm => rw [Option.some.inj (hn.symm.trans hm)]
    | float _ hpoint _ => exact absurd hwhole hpoint
  | float _ hpoint hx =>
    cases hb with
    | int _ hwhole _ => exact absurd hwhole hpoint
    | float _ _ hy => rw [Option.some.inj (hx.symm.trans hy)]

theorem Numeric.fixes {u : List Char} {json : Json} (h : Numeric u json) :
    Fixes EndsNumber Numeric u json := by
  intro v r r' other hv hr hr' heq
  obtain ⟨rfl, hrest⟩ := run_append_inj h.isNumber.inNumber hr hv.isNumber.inNumber hr' heq
  exact ⟨h.unique hv, hrest⟩

/-! ## Kinds of values -/

/-- What the first character of a value says about it. -/
inductive Kind where
  | null
  | bool (b : Bool)
  | number
  | string
  | array
  | object
deriving DecidableEq

/-- The kind of value that begins with a character. -/
def Kind.ofChar (c : Char) : Kind :=
  if inNumber c then .number
  else match c with
    | 'n' => .null
    | 't' => .bool true
    | 'f' => .bool false
    | '[' => .array
    | '\x7b' => .object
    | _ => .string

/-- The kind of a tree. -/
def Kind.ofJson : Json → Kind
  | .null => .null
  | .bool b => .bool b
  | .int _ => .number
  | .float _ => .number
  | .string _ => .string
  | .array _ => .array
  | .object _ => .object

theorem Numeric.kind {u : List Char} {json : Json} (h : Numeric u json) :
    Kind.ofJson json = .number := by
  cases h with
  | int => rfl
  | float => rfl

theorem Enclosed.exists_cons {α : Type} {o c : Char} {R : List Char → α → Prop} {u : List Char}
    {xs : List α} (h : Enclosed o c R u xs) : ∃ more, u = o :: more := by
  cases h with
  | none _ => exact ⟨_, rfl⟩
  | some _ => exact ⟨_, rfl⟩

theorem not_blank_of_inNumber {c : Char} (h : inNumber c = true) :
    isBlank c = false ∧ isClosing c = false := by
  have hne : ∀ d : Char, inNumber d = false → c ≠ d := fun _ => ne_of_inNumber h
  simp [isBlank, isClosing, hne ' ' rfl, hne '\t' rfl, hne '\n' rfl, hne '\r' rfl, hne ']' rfl,
    hne '\x7d' rfl]

/-- The first character of a value shows what kind of value it is. -/
theorem Derives.opening {u : List Char} {json : Json} (h : Derives u json) :
    ∃ c more, u = c :: more ∧ Kind.ofChar c = Kind.ofJson json ∧ isBlank c = false ∧
      isClosing c = false := by
  cases h with
  | null => exact ⟨'n', _, rfl, rfl, rfl, rfl⟩
  | bool b =>
    cases b with
    | true => exact ⟨'t', _, rfl, rfl, rfl, rfl⟩
    | false => exact ⟨'f', _, rfl, rfl, rfl, rfl⟩
  | number hu =>
    obtain ⟨c, more, rfl⟩ := List.exists_cons_of_ne_nil hu.isNumber.ne_nil
    have hc := hu.isNumber.inNumber c List.mem_cons_self
    exact ⟨c, more, rfl, (if_pos hc).trans hu.kind.symm, not_blank_of_inNumber hc⟩
  | string hu =>
    obtain ⟨-⟩ := hu
    exact ⟨'"', _, rfl, rfl, rfl, rfl⟩
  | array hu =>
    obtain ⟨more, rfl⟩ := hu.exists_cons
    exact ⟨'[', _, rfl, rfl, rfl, rfl⟩
  | object hu =>
    obtain ⟨more, rfl⟩ := hu.exists_cons
    exact ⟨'\x7b', _, rfl, rfl, rfl, rfl⟩

theorem Derives.begins {u : List Char} {json : Json} (h : Derives u json) : Begins u := by
  obtain ⟨c, more, rfl, -, hc⟩ := h.opening
  exact ⟨c, more, rfl, hc⟩

/-- Values that begin alike are of the same kind. -/
theorem Derives.kind_eq {u v r r' : List Char} {a b : Json} (hu : Derives u a) (hv : Derives v b)
    (h : u ++ r = v ++ r') : Kind.ofJson a = Kind.ofJson b := by
  obtain ⟨c, more, rfl, hc, -⟩ := hu.opening
  obtain ⟨d, more', rfl, hd, -⟩ := hv.opening
  rw [← hc, ← hd, (List.cons.inj h).1]

theorem Member.begins {u : List Char} {member : String × Json} (h : Member Derives u member) :
    BeginsPadded u := by
  obtain ⟨hname, -⟩ := h
  obtain ⟨a, v, rfl, ha, c, more, rfl, hc⟩ := hname.begins fun _ _ => Quoted.begins
  exact ⟨a, _, List.append_assoc .., ha, c, _, rfl, hc⟩

/-- A member is a name, a colon and an element. -/
theorem Fixes.member {u v : List Char} {name : String} {json : Json} (hu : Padded Quoted u name)
    (h : Fixes EndsElement (Padded Derives) v json) :
    Fixes EndsElement (Member Derives) (u ++ ':' :: v) (name, json) := by
  rintro w r r' ⟨other, tree⟩ ⟨hu', hv'⟩ hr hr' heq
  have hcolon : ∀ rest, EndsElement (':' :: rest) := by
    rintro rest c ⟨⟩
    rfl
  have hname : Fixes EndsElement (Padded Quoted) u name := by
    obtain ⟨ha, hs, hb⟩ := hu
    exact Fixes.padded (fun _ _ => Quoted.begins) ha hs hb hs.fixes
  rw [List.append_assoc, List.append_assoc] at heq
  obtain ⟨rfl, hrest⟩ := hname hu' (hcolon _) (hcolon _) heq
  obtain ⟨rfl, hrest⟩ := h hv' hr hr' (List.cons.inj hrest).2
  exact ⟨rfl, hrest⟩

/-! ## One tree for each text -/

section Values

variable {u : List Char}

theorem Fixes.null : Fixes EndsNumber Derives ['n', 'u', 'l', 'l'] .null := by
  intro v r r' other hv _ _ heq
  have hkind := Derives.null.kind_eq hv heq
  cases hv with
  | null => exact ⟨rfl, List.append_cancel_left heq⟩
  | number hv => exact absurd (hkind.trans hv.kind) nofun
  | bool | string | array | object => exact absurd hkind nofun

theorem Fixes.bool (b : Bool) : Fixes EndsNumber Derives (Truth.chars b) (.bool b) := by
  intro v r r' other hv _ _ heq
  have hkind := (Derives.bool b).kind_eq hv heq
  cases hv with
  | bool b' =>
    obtain rfl : b = b' := Kind.bool.inj hkind
    exact ⟨rfl, List.append_cancel_left heq⟩
  | number hv => exact absurd (hkind.trans hv.kind) nofun
  | null | string | array | object => exact absurd hkind nofun

theorem Fixes.number {json : Json} (hu : Numeric u json) : Fixes EndsNumber Derives u json := by
  intro v r r' other hv hr hr' heq
  have hkind := (Derives.number hu).kind_eq hv heq
  rw [hu.kind] at hkind
  cases hv with
  | number hv => exact hu.fixes hv hr hr' heq
  | null | bool | string | array | object => exact absurd hkind nofun

theorem Fixes.string {s : String} (hu : Quoted u s) : Fixes EndsNumber Derives u (.string s) := by
  intro v r r' other hv hr hr' heq
  have hkind := (Derives.string hu).kind_eq hv heq
  cases hv with
  | string hv =>
    obtain ⟨rfl, hrest⟩ := hu.fixes hv hr hr' heq
    exact ⟨rfl, hrest⟩
  | number hv => exact absurd (hkind.trans hv.kind) nofun
  | null | bool | array | object => exact absurd hkind nofun

theorem Fixes.array {items : List Json} (hu : Enclosed '[' ']' (Padded Derives) u items)
    (h : Fixes EndsNumber (Enclosed '[' ']' (Padded Derives)) u items) :
    Fixes EndsNumber Derives u (.array items) := by
  intro v r r' other hv hr hr' heq
  have hkind := (Derives.array hu).kind_eq hv heq
  cases hv with
  | array hv =>
    obtain ⟨rfl, hrest⟩ := h hv hr hr' heq
    exact ⟨rfl, hrest⟩
  | number hv => exact absurd (hkind.trans hv.kind) nofun
  | null | bool | string | object => exact absurd hkind nofun

theorem Fixes.object {members : List (String × Json)}
    (hu : Enclosed '\x7b' '\x7d' (Member Derives) u members)
    (h : Fixes EndsNumber (Enclosed '\x7b' '\x7d' (Member Derives)) u members) :
    Fixes EndsNumber Derives u (.object members) := by
  intro v r r' other hv hr hr' heq
  have hkind := (Derives.object hu).kind_eq hv heq
  cases hv with
  | object hv =>
    obtain ⟨rfl, hrest⟩ := h hv hr hr' heq
    exact ⟨rfl, hrest⟩
  | number hv => exact absurd (hkind.trans hv.kind) nofun
  | null | bool | string | array => exact absurd hkind nofun

/-- Every value fixes its reading. -/
theorem Derives.fixes {json : Json} (h : Derives u json) : Fixes EndsNumber Derives u json := by
  have hitem : ∀ ⦃v : List Char⦄ ⦃y : Json⦄, Padded Derives v y → BeginsPadded v := by
    intro v y hv
    exact hv.begins fun _ _ => Derives.begins
  -- One motive for each rule through which the rules of values are nested.
  refine @Derives.rec (fun u json _ => Fixes EndsNumber Derives u json)
    (fun u items _ => Fixes EndsNumber (Enclosed '[' ']' (Padded Derives)) u items)
    (fun u members _ => Fixes EndsNumber (Enclosed '\x7b' '\x7d' (Member Derives)) u members)
    (fun u items _ => Fixes Closes (Separated (Padded Derives)) u items)
    (fun u members _ => Fixes Closes (Separated (Member Derives)) u members)
    (fun u json _ => Fixes EndsElement (Padded Derives) u json)
    (fun u member _ => Fixes EndsElement (Member Derives) u member)
    Fixes.null Fixes.bool Fixes.number Fixes.string Fixes.array Fixes.object
    ?_ ?_ ?_ ?_ ?_ ?_ ?_ ?_ ?_ ?_ u json h
  · exact fun hu => Fixes.none rfl hitem hu
  · exact fun hu ih => Fixes.some rfl hitem hu ih
  · exact fun hu => Fixes.none rfl (fun _ _ => Member.begins) hu
  · exact fun hu ih => Fixes.some rfl (fun _ _ => Member.begins) hu ih
  · exact fun _ ih => Fixes.last ih
  · exact fun _ _ ih ihs => Fixes.cons ih ihs
  · exact fun _ ih => Fixes.last ih
  · exact fun _ _ ih ihs => Fixes.cons ih ihs
  · exact fun ha hu hb ih => Fixes.padded (fun _ _ => Derives.begins) ha hu hb ih
  · exact fun hu _ ih => Fixes.member hu ih

end Values

end Grammar

/-- A text is read as one tree at most. -/
theorem Reads.unique {text : String} {a b : Json} (ha : Reads text a) (hb : Reads text b) :
    a = b := by
  have hfixes : ∀ {u : List Char}, Grammar.Padded Grammar.Derives u a →
      Grammar.Fixes Grammar.EndsElement (Grammar.Padded Grammar.Derives) u a := by
    rintro u ⟨hfront, hu, hback⟩
    exact Grammar.Fixes.padded (fun _ _ => Grammar.Derives.begins) hfront hu hback hu.fixes
  have hend : Grammar.EndsElement [] := by
    rintro c ⟨⟩
  exact (hfixes ha hb hend hend rfl).1

end Reckoner.Json
