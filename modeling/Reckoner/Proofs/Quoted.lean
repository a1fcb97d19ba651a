import Reckoner.Proofs.Lexing.Word
import Reckoner.Text.Quoted

/-!
# Quoted texts

A character between quotes stands for itself, or is written behind a backslash, by a letter or by
`u` and its code. A `Quoting` says which of these forms there are. Neither a quote nor a backslash
ever stands for itself and no code is the beginning of another, so the characters can be told
apart one by one, and the first quote that is no part of an escape ends the text
(`Quoting.Body.append_inj`).

The texts inside a list are written in one such way (`Text.quoting`). They are single lines: a
line break is always written as an escape (`Text.newline_notMem_quotedChars`).
-/

set_option autoImplicit false

namespace Reckoner

/-- What stands between two marks, with the second mark and what follows it. -/
theorem enclosed_append_inj {o c : Char} {u v r r' : List Char}
    (h : o :: (u ++ [c]) ++ r = o :: (v ++ [c]) ++ r') : u ++ c :: r = v ++ c :: r' := by
  simpa using h

/-! ## Ways to quote -/

/-- A way to write characters between quotes: as themselves, or behind a backslash as a letter or as
`u` and a code. -/
structure Quoting where
  Plain : Char → Prop
  letter? : Char → Option Char
  Code : List Char → Char → Prop
  not_plain_quote : ¬ Plain '"'
  not_plain_backslash : ¬ Plain '\\'
  letter?_u : letter? 'u' = none
  code_append_inj : ∀ {u v r r' : List Char} {c d : Char}, Code u c → Code v d →
    u ++ r = v ++ r' → c = d ∧ r = r'

namespace Quoting

/-- What stands for one character. -/
inductive Spells (q : Quoting) : List Char → Char → Prop
  | plain {c : Char} : q.Plain c → Spells q [c] c
  | letter {x c : Char} : q.letter? x = some c → Spells q ['\\', x] c
  | code {u : List Char} {c : Char} : q.Code u c → Spells q ('\\' :: 'u' :: u) c

/-- What stands for a row of characters. -/
inductive Body (q : Quoting) : List Char → List Char → Prop
  | nil : Body q [] []
  | cons {u v s : List Char} {c : Char} : q.Spells u c → Body q v s → Body q (u ++ v) (c :: s)

variable {q : Quoting} {u v r r' s t : List Char} {c d : Char}

theorem Spells.exists_cons (h : q.Spells u c) : ∃ a more, u = a :: more ∧ a ≠ '"' := by
  cases h with
  | plain hc =>
    refine ⟨c, [], rfl, ?_⟩
    rintro rfl
    exact q.not_plain_quote hc
  | letter _ => exact ⟨'\\', _, rfl, by decide⟩
  | code _ => exact ⟨'\\', _, rfl, by decide⟩

theorem Plain.ne_backslash (h : q.Plain c) : c ≠ '\\' := by
  rintro rfl
  exact q.not_plain_backslash h

/-- The first of the characters, and where the next one begins, can be seen. -/
theorem Spells.append_inj (hu : q.Spells u c) (hv : q.Spells v d) (h : u ++ r = v ++ r') :
    c = d ∧ r = r' := by
  cases hu with
  | plain hc =>
    cases hv with
    | plain => exact List.cons.inj h
    | letter _ => exact absurd (List.cons.inj h).1 (Plain.ne_backslash hc)
    | code _ => exact absurd (List.cons.inj h).1 (Plain.ne_backslash hc)
  | letter hx =>
    cases hv with
    | plain hd => exact absurd (List.cons.inj h).1.symm (Plain.ne_backslash hd)
    | letter hy =>
      obtain ⟨rfl, hrest⟩ := List.cons.inj (List.cons.inj h).2
      exact ⟨Option.some.inj (hx.symm.trans hy), hrest⟩
    | code _ =>
      -- The letter before a code stands for no character.
      obtain ⟨rfl, -⟩ := List.cons.inj (List.cons.inj h).2
      rw [q.letter?_u] at hx
      simp at hx
  | code hcode =>
    cases hv with
    | plain hd => exact absurd (List.cons.inj h).1.symm (Plain.ne_backslash hd)
    | letter hy =>
      obtain ⟨rfl, -⟩ := List.cons.inj (List.cons.inj h).2
      rw [q.letter?_u] at hy
      simp at hy
    | code hcode' =>
      exact q.code_append_inj hcode hcode' (List.cons.inj (List.cons.inj h).2).2

/-- A quoted text ends at its quote, and stands for one text. -/
theorem Body.append_inj (hu : q.Body u s) (hv : q.Body v t) (h : u ++ '"' :: r = v ++ '"' :: r') :
    s = t ∧ r = r' := by
  induction hu generalizing v t with
  | nil =>
    cases hv with
    | nil => exact ⟨rfl, (List.cons.inj h).2⟩
    | cons hd _ =>
      obtain ⟨a, more, rfl, hquote⟩ := hd.exists_cons
      exact absurd (List.cons.inj h).1.symm hquote
  | cons hc _ ih =>
    cases hv with
    | nil =>
      obtain ⟨a, more, rfl, hquote⟩ := hc.exists_cons
      exact absurd (List.cons.inj h).1 hquote
    | cons hd hmore =>
      rw [List.append_assoc, List.append_assoc] at h
      obtain ⟨rfl, hrest⟩ := hc.append_inj hd h
      obtain ⟨rfl, hr⟩ := ih hmore hrest
      exact ⟨rfl, hr⟩

theorem body_flatMap {f : Char → List Char} (h : ∀ c, q.Spells (f c) c) (s : List Char) :
    q.Body (s.flatMap f) s := by
  induction s with
  | nil => exact .nil
  | cons c s ih => exact .cons (h c) ih

end Quoting

namespace Text

/-! ## Hexadecimal digits -/

/-- The value of a hexadecimal digit, in either case. -/
def hexDigit? (c : Char) : Option Nat :=
  if '0' ≤ c ∧ c ≤ '9' then some (c.toNat - '0'.toNat)
  else if 'a' ≤ c ∧ c ≤ 'f' then some (c.toNat - 'a'.toNat + 10)
  else if 'A' ≤ c ∧ c ≤ 'F' then some (c.toNat - 'A'.toNat + 10)
  else none

/-- The number that hexadecimal digits stand for, behind digits that stand for `n`. -/
def hexValueFrom? (n : Nat) : List Char → Option Nat
  | [] => some n
  | c :: more => (hexDigit? c).bind fun digit => hexValueFrom? (16 * n + digit) more

/-- The number that a row of hexadecimal digits stands for. -/
def hexValue? (digits : List Char) : Option Nat :=
  hexValueFrom? 0 digits

theorem hexValueFrom?_append (n : Nat) (xs ys : List Char) :
    hexValueFrom? n (xs ++ ys) = (hexValueFrom? n xs).bind fun m => hexValueFrom? m ys := by
  induction xs generalizing n with
  | nil => rfl
  | cons c more ih =>
    rw [List.cons_append, hexValueFrom?, hexValueFrom?, Option.bind_assoc]
    congr 1
    funext digit
    exact ih _

theorem hexDigit?_digitChar : ∀ n < 16, hexDigit? n.digitChar = some n := by
  decide

/-- The hexadecimal digits of a number stand for it. -/
theorem hexValue?_toDigits (n : Nat) : hexValue? (Nat.toDigits 16 n) = some n := by
  induction n using Nat.strongRecOn with
  | ind n ih =>
    by_cases hlt : n < 16
    · rw [Nat.toDigits_of_lt_base hlt, hexValue?, hexValueFrom?, hexDigit?_digitChar n hlt]
      simp [hexValueFrom?]
    · -- All digits but the last are those of a sixteenth of the number.
      have hhigh := ih (n / 16) (by omega)
      rw [hexValue?] at hhigh ⊢
      rw [Nat.toDigits_of_base_le (by decide) (by omega), hexValueFrom?_append, hhigh,
        Option.bind_some, hexValueFrom?, hexDigit?_digitChar _ (Nat.mod_lt n (by decide))]
      simp only [Option.bind_some, hexValueFrom?]
      congr 1
      omega

/-- Every digit of a row that stands for a number is one. -/
theorem isSome_of_hexValueFrom? {n m : Nat} {digits : List Char}
    (h : hexValueFrom? n digits = some m) : ∀ c ∈ digits, (hexDigit? c).isSome = true := by
  induction digits generalizing n with
  | nil => simp
  | cons c more ih =>
    obtain ⟨digit, hdigit, hmore⟩ := Option.bind_eq_some_iff.1 h
    intro d hd
    rcases List.mem_cons.1 hd with rfl | hd
    · rw [hdigit]
      rfl
    · exact ih hmore d hd

theorem isSome_of_mem_toDigits {n : Nat} {c : Char} (h : c ∈ Nat.toDigits 16 n) :
    (hexDigit? c).isSome = true :=
  isSome_of_hexValueFrom? (hexValue?_toDigits n) c h

/-- Hexadecimal digits end before the brace that closes them. -/
theorem toDigits_brace_inj {m n : Nat} {u v : List Char}
    (h : Nat.toDigits 16 m ++ '\x7d' :: u = Nat.toDigits 16 n ++ '\x7d' :: v) : m = n ∧ u = v := by
  have hbrace : ∀ rest : List Char, ∀ c ∈ ('\x7d' :: rest).head?, (hexDigit? c).isSome = false := by
    rintro rest c ⟨⟩
    decide
  obtain ⟨hdigits, hrest⟩ := Token.run_append_inj (fun _ => isSome_of_mem_toDigits) (hbrace u)
    (fun _ => isSome_of_mem_toDigits) (hbrace v) h
  have hvalue := hexValue?_toDigits m
  rw [hdigits, hexValue?_toDigits n, Option.some.injEq] at hvalue
  exact ⟨hvalue.symm, (List.cons.inj hrest).2⟩

/-! ## Texts inside a list -/

/-- The character that a letter behind a backslash stands for. -/
def letterEscape? : Char → Option Char
  | '0' => some '\x00'
  | 't' => some '\t'
  | 'r' => some '\r'
  | 'n' => some '\n'
  | '\\' => some '\\'
  | '"' => some '"'
  | _ => none

/-- How a text is quoted inside a list: codes are hexadecimal digits between braces. -/
def quoting : Quoting where
  Plain c := c ≠ '"' ∧ c ≠ '\\' ∧ c ≠ '\n'
  letter? := letterEscape?
  Code u c := u = '\x7b' :: (Nat.toDigits 16 c.toNat ++ ['\x7d'])
  not_plain_quote h := h.1 rfl
  not_plain_backslash h := h.2.1 rfl
  letter?_u := rfl
  code_append_inj := by
    rintro u v r r' c d rfl rfl h
    simp only [List.cons_append, List.append_assoc, List.nil_append, List.cons.injEq, true_and] at h
    obtain ⟨hcode, hrest⟩ := toDigits_brace_inj h
    exact ⟨Char.toNat_inj.1 hcode, hrest⟩

theorem spells_quotedChar (c : Char) : quoting.Spells (quotedChar c) c := by
  unfold quotedChar
  split
  · exact .letter rfl
  · exact .letter rfl
  · exact .letter rfl
  · exact .letter rfl
  · exact .letter rfl
  · exact .letter rfl
  · next hnewline hbackslash hquote =>
    split
    · exact .plain ⟨hquote, hbackslash, hnewline⟩
    · exact .code rfl

theorem newline_notMem_of_spells {u : List Char} {c : Char} (h : quoting.Spells u c) :
    '\n' ∉ u := by
  cases h with
  | plain hc => simpa using hc.2.2.symm
  | @letter x _ hx =>
    simp only [List.mem_cons, List.not_mem_nil, or_false, not_or]
    refine ⟨by decide, ?_⟩
    rintro rfl
    simp [quoting, letterEscape?] at hx
  | code hcode =>
    obtain rfl : _ = _ := hcode
    intro hmem
    simp only [List.mem_append, List.mem_cons, List.not_mem_nil, or_false] at hmem
    rcases hmem with hmem | hmem | hmem | hmem | hmem
    · exact absurd hmem (by decide)
    · exact absurd hmem (by decide)
    · exact absurd hmem (by decide)
    · exact absurd (isSome_of_mem_toDigits hmem) (by decide)
    · exact absurd hmem (by decide)

/-- No line breaks in a quoted text. -/
theorem newline_notMem_quotedChars (s : List Char) : '\n' ∉ quotedChars s := by
  simp only [quotedChars, List.mem_cons, List.mem_append, List.mem_flatMap, List.not_mem_nil,
    or_false, not_or, not_exists, not_and]
  exact ⟨by decide, fun c _ => newline_notMem_of_spells (spells_quotedChar c), by decide⟩

end Text

end Reckoner
