import Reckoner.Proofs.Json.Grammar
import Reckoner.Proofs.Shortest

/-!
# Formatters that can be read back

Little has to be known of a formatter for its texts to be read as the trees they were written from
(`Formatter.Lawful`): between the parts of a text it writes blanks only, its strings stand between
quotes with their escapes, and its doubles have a point or an exponent, which an integer never has,
and are read as the doubles they are. Then every tree whose doubles are all finite is read from its
text (`Formatter.Lawful.reads_text`).

The formatters of the program differ in their blanks only, and both are lawful (`lawful_compact`,
`lawful_pretty`).
-/

set_option autoImplicit false

namespace Reckoner.Json

open Token

/-! ## Finite trees -/

mutual

/-- The doubles in a tree, at any depth. -/
def floats : Json → List Float
  | .null => []
  | .bool _ => []
  | .int _ => []
  | .float x => [x]
  | .string _ => []
  | .array items => itemFloats items
  | .object members => memberFloats members

/-- The doubles in the items of an array. -/
def itemFloats : List Json → List Float
  | [] => []
  | item :: more => floats item ++ itemFloats more

/-- The doubles in the members of an object. -/
def memberFloats : List (String × Json) → List Float
  | [] => []
  | (_, item) :: more => floats item ++ memberFloats more

end

/-- Every double is finite. -/
def AreFinite (xs : List Float) : Prop :=
  ∀ x ∈ xs, Binary64.isFinite x = true

theorem areFinite_append {xs ys : List Float} :
    AreFinite (xs ++ ys) ↔ AreFinite xs ∧ AreFinite ys :=
  List.forall_mem_append

namespace Formatter

open Reckoner.Json.Grammar

/-! ## Reading back -/

/-- What has to be known of a formatter. It writes nothing but blanks between the parts of a text,
and a string between quotes with its escapes. A finite double becomes a number with a point or an
exponent that is read back as the same double. -/
structure Lawful (f : Formatter) : Prop where
  blanks_lineBreak : ∀ level, Blanks (f.lineBreak level)
  blanks_afterColon : Blanks f.afterColon
  quoted_string : ∀ s, Quoted (f.string s) s
  isNumber_float : ∀ x, Binary64.isFinite x = true → IsNumber (f.float x)
  not_isWhole_float : ∀ x, Binary64.isFinite x = true → ¬ IsWhole (f.float x)
  float?_float : ∀ x, Binary64.isFinite x = true → Numeral.float? (f.float x) = some x

theorem blanks_nil : Blanks [] := by
  simp [Blanks]

theorem numeric_intChars (n : Int64) : Numeric (Integer.chars n) (.int n) := by
  obtain ⟨sign, hsign, hchars⟩ := Integer.chars_parts n
  have hdigits := digits_toDigits n.toInt.natAbs
  refine .int ?_ ?_ (Numeral.integer?_chars n)
  · rw [hchars, ← List.append_nil (Nat.toDigits _ _)]
    exact .mk hsign hdigits (unpadded_toDigits _) .none .none
  · intro c hc hpoint
    simp only [List.mem_cons, List.not_mem_nil, or_false] at hpoint
    rcases Integer.mem_chars hc with rfl | hdigit
    · simp at hpoint
    · rcases hpoint with rfl | rfl | rfl <;> exact absurd hdigit (by decide)

namespace Lawful

variable {f : Formatter} (hf : f.Lawful)

include hf

theorem numeric_float {x : Float} (hx : Binary64.isFinite x = true) :
    Numeric (f.float x) (.float x) :=
  .float (hf.isNumber_float x hx) (hf.not_isWhole_float x hx) (hf.float?_float x hx)

theorem member {a u b : List Char} {name : String} {json : Json} (ha : Blanks a)
    (hu : Derives u json) (hb : Blanks b) :
    Member Derives (a ++ (f.string name ++ ':' :: (f.afterColon ++ (u ++ b)))) (name, json) := by
  have hname : Padded Quoted (a ++ (f.string name ++ [])) name :=
    .mk ha (hf.quoted_string name) blanks_nil
  have hjson : Padded Derives (f.afterColon ++ (u ++ b)) json := .mk hf.blanks_afterColon hu hb
  simpa using Member.mk hname hjson

mutual

/-- The characters of a tree are derived as that tree. -/
theorem derives_chars (level : Nat) (json : Json) (h : AreFinite json.floats) :
    Derives (f.chars level json) json := by
  match json with
  | .null => exact .null
  | .bool b => exact .bool b
  | .int n => exact .number (numeric_intChars n)
  | .float x => exact .number (hf.numeric_float (h x List.mem_cons_self))
  | .string s => exact .string (hf.quoted_string s)
  | .array [] => exact .array (.none blanks_nil)
  | .array (item :: more) =>
    obtain ⟨hitem, hmore⟩ := areFinite_append.1 h
    have hitems := separated_itemChars (level + 1) (derives_chars (level + 1) item hitem)
      (hf.blanks_lineBreak level) more hmore
    simpa [chars] using Derives.array (.some hitems)
  | .object [] => exact .object (.none blanks_nil)
  | .object ((name, item) :: more) =>
    obtain ⟨hitem, hmore⟩ := areFinite_append.1 h
    have hmembers := separated_memberChars (level + 1) name
      (derives_chars (level + 1) item hitem) (hf.blanks_lineBreak level) more hmore
    simpa [chars] using Derives.object (.some hmembers)

/-- The first item of an array and those behind it. -/
theorem separated_itemChars (level : Nat) {u b : List Char} {item : Json} (hu : Derives u item)
    (hb : Blanks b) (more : List Json) (h : AreFinite (itemFloats more)) :
    Separated (Padded Derives) (f.lineBreak level ++ (u ++ (f.itemChars level more ++ b)))
      (item :: more) := by
  match more with
  | [] => exact .last (.mk (hf.blanks_lineBreak level) hu hb)
  | next :: more =>
    obtain ⟨hnext, hmore⟩ := areFinite_append.1 h
    have hitems := separated_itemChars level (derives_chars level next hnext) hb more hmore
    have hitem : Padded Derives (f.lineBreak level ++ (u ++ [])) item :=
      .mk (hf.blanks_lineBreak level) hu blanks_nil
    simpa [itemChars] using Separated.cons hitem hitems

/-- The first member of an object and those behind it. -/
theorem separated_memberChars (level : Nat) (name : String) {u b : List Char} {item : Json}
    (hu : Derives u item) (hb : Blanks b) (more : List (String × Json))
    (h : AreFinite (memberFloats more)) :
    Separated (Member Derives) (f.lineBreak level ++ (f.string name ++ ':' :: (f.afterColon ++
      (u ++ (f.memberChars level more ++ b))))) ((name, item) :: more) := by
  match more with
  | [] => exact .last (hf.member (hf.blanks_lineBreak level) hu hb)
  | (name', next) :: more =>
    obtain ⟨hnext, hmore⟩ := areFinite_append.1 h
    have hmembers := separated_memberChars level name' (derives_chars level next hnext) hb more
      hmore
    have hmember : Member Derives
        (f.lineBreak level ++ (f.string name ++ ':' :: (f.afterColon ++ (u ++ [])))) (name, item) :=
      hf.member (hf.blanks_lineBreak level) hu blanks_nil
    simpa [memberChars] using Separated.cons hmember hmembers

end

/-- A tree whose doubles are all finite is read from its text. -/
theorem reads_text {json : Json} (h : AreFinite json.floats) : Reads (f.text json) json := by
  have hpadded := Padded.mk blanks_nil (hf.derives_chars 0 json h) blanks_nil
  simpa [Reads, text] using hpadded

end Lawful

/-! ## Strings -/

/-- A control character in four digits. -/
theorem unit_control : ∀ n < 0x20,
    (List.replicate (4 - (Nat.toDigits 16 n).length) '0' ++ Nat.toDigits 16 n).length = 4 ∧
      Text.hexValue? (List.replicate (4 - (Nat.toDigits 16 n).length) '0' ++ Nat.toDigits 16 n) =
        some n := by
  decide

theorem spells_stringChar (c : Char) : quoting.Spells (stringChar c) c := by
  unfold stringChar
  split
  · exact .letter rfl
  · exact .letter rfl
  · exact .letter rfl
  · exact .letter rfl
  · exact .letter rfl
  · exact .letter rfl
  · exact .letter rfl
  · next hquote hbackslash _ _ _ _ _ =>
    split
    · next hcontrol => exact .code (.one (unit_control c.toNat hcontrol))
    · next hcontrol => exact .plain ⟨hquote, hbackslash, Nat.not_lt.1 hcontrol⟩

theorem quoted_stringChars (s : String) : Quoted (stringChars s) s :=
  .mk (Quoting.body_flatMap spells_stringChar s.toList)

/-! ## Numbers -/

theorem fraction_fractionChars {digits : List Char} (h : ∀ c ∈ digits, c.isDigit = true) :
    Fraction (Decimal.fractionChars digits) := by
  cases digits with
  | nil => exact .none
  | cons c more => exact .some ⟨List.cons_ne_nil c more, h⟩

theorem exponent_exponentChars (place : Int) : Exponent (Numeral.exponentChars place) := by
  have hdigits := digits_toDigits place.natAbs
  unfold Numeral.exponentChars
  split
  · exact @Exponent.some 'e' ['-'] _ (by simp) (by simp) hdigits
  · exact @Exponent.some 'e' ['+'] _ (by simp) (by simp) hdigits

/-- A finite double is written as a number with a point or an exponent. -/
theorem isNumber_floatChars {x : Float} (h : Binary64.isFinite x = true) :
    IsNumber (floatChars x) ∧ ¬ IsWhole (floatChars x) := by
  have hsign := Binary64.signChars_mem x
  rw [Binary64.floatChars_eq h, decimalChars]
  split
  · obtain ⟨whole, fraction, hchars, hparts⟩ :=
      Decimal.positionalWithFraction_parts (Binary64.exponent_shortest_of_zero .even h)
    rw [hchars, ← List.append_nil ('.' :: fraction)]
    refine ⟨.mk hsign hparts.digits hparts.unpadded (.some hparts.decimals) .none, ?_⟩
    intro hwhole
    exact hwhole '.' (by simp) (by simp)
  · next hleading =>
    have hcoefficient := Binary64.coefficient_shortest_ne_zero .even h
      (Binary64.magnitude_ne_zero_of_leading hleading)
    obtain ⟨first, more, hdigits, hzero, hchars⟩ := Decimal.scientific_parts hcoefficient
    have hall : Digits (first :: more) := hdigits ▸ digits_toDigits _
    have hfirst : Digits [first] := ⟨by simp, by simpa using hall.2 first List.mem_cons_self⟩
    have hunpadded : Unpadded [first] := by
      right
      rintro c ⟨⟩
      exact hzero
    rw [hchars]
    refine ⟨.mk hsign hfirst hunpadded ?_ (exponent_exponentChars _), ?_⟩
    · exact fraction_fractionChars fun c hc => hall.2 c (List.mem_cons_of_mem first hc)
    · intro hwhole
      exact hwhole 'e' (by simp [Numeral.exponentChars]) (by simp)

/-! ## The formatters of the program -/

/-- Any blanks will do between strings and doubles as they are written by default. -/
theorem lawful_of_blanks {lineBreak : Nat → List Char} {afterColon : List Char}
    (hbreak : ∀ level, Blanks (lineBreak level)) (hcolon : Blanks afterColon) :
    Lawful ⟨lineBreak, afterColon, stringChars, floatChars⟩ where
  blanks_lineBreak := hbreak
  blanks_afterColon := hcolon
  quoted_string := quoted_stringChars
  isNumber_float _ hx := (isNumber_floatChars hx).1
  not_isWhole_float _ hx := (isNumber_floatChars hx).2
  float?_float _ hx := Numeral.float?_floatChars hx

theorem lawful_compact : compact.Lawful :=
  lawful_of_blanks (fun _ => blanks_nil) blanks_nil

theorem lawful_pretty : pretty.Lawful := by
  apply lawful_of_blanks
  · intro level c hc
    rcases List.mem_cons.1 hc with rfl | hc
    · rfl
    · rw [List.eq_of_mem_replicate hc]
      rfl
  · intro c hc
    rw [List.mem_singleton.1 hc]
    rfl

end Formatter

end Reckoner.Json
