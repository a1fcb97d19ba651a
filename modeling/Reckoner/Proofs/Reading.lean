import Reckoner.Proofs.Lexing.Line
import Reckoner.Proofs.Recognition
import Reckoner.Session.Basic

/-!
# Which lines say which statements

A line says a statement exactly if the line is made up of the words of some tokens, and the grammar
derives the statement from these tokens within the limits.
-/

set_option autoImplicit false

namespace Reckoner

open Grammar Token

theorem Session.read_eq_ok_iff {line : String} {s : Statement} :
    Session.read line = .ok s ↔
      ∃ ts q, Lexes line.toList 0 (ts ++ [q]) ∧ Sentence q ts s ∧ s.nesting ≤ maxLevels ∧
        s.operators ≤ maxOperators := by
  constructor
  · intro h
    unfold Session.read at h
    split at h
    · simp at h
    · next ts htokens =>
      have hlexes := tokenize_eq_ok_iff.1 htokens
      obtain ⟨body, rfl, hbody⟩ := hlexes.exists_finish
      split at h
      · simp at h
      · next s' hparse =>
        obtain rfl : s' = s := by simpa using h
        exact ⟨body, _, hlexes, (parse_eq_ok_iff hbody rfl).1 hparse⟩
  · rintro ⟨ts, q, hlexes, hs⟩
    obtain ⟨rfl, hbody⟩ := hlexes.finish_of_append
    simp only [Session.read, tokenize_eq_ok_iff.2 hlexes, (parse_eq_ok_iff hbody rfl).2 hs]

/-- A line fails in one of three ways: it has no tokens, or its tokens say nothing, or what it says
has no value. -/
theorem Session.failure_cases {s : Session} {line : String} {f : Failure}
    (h : (s.process line).1 = .error f) :
    (∃ e, f = .lex e ∧ tokenize line = .error e) ∨
    (∃ e ts, f = .parse e ∧ tokenize line = .ok ts ∧ parse ts = .error e) ∨
    ∃ e statement, f = .eval e ∧ Session.read line = .ok statement ∧
      statement.eval s.environment = .error e := by
  unfold Session.process at h
  split at h
  · next f' hread =>
    obtain rfl : f' = f := Except.error.inj h
    unfold Session.read at hread
    split at hread
    · next e htokens => exact Or.inl ⟨e, (Except.error.inj hread).symm, htokens⟩
    · next ts htokens =>
      split at hread
      · next e hparse => exact Or.inr (Or.inl ⟨e, ts, (Except.error.inj hread).symm, htokens, hparse⟩)
      · cases hread
  · next statement hread =>
    split at h
    · next e herror =>
      exact Or.inr (Or.inr ⟨e, statement, (Except.error.inj h).symm, hread, herror⟩)
    · cases h

/-- A line says the blank statement exactly if there are only separators in it. -/
theorem Session.exists_read_blank_iff {line : String} :
    (∃ span, Session.read line = .ok (.blank span)) ↔ Blank line.toList := by
  constructor
  · rintro ⟨span, h⟩
    obtain ⟨ts, q, hlexes, hs, -⟩ := Session.read_eq_ok_iff.1 h
    generalize line.toList = chars at hlexes ⊢
    cases hs with
    | blank =>
      cases hlexes with
      | finish hblank => exact hblank
      | token _ _ _ _ hrest => exact nomatch hrest
  · intro h
    exact ⟨_, Session.read_eq_ok_iff.2
      ⟨[], _, .finish h, .blank, Nat.zero_le _, Nat.zero_le _⟩⟩

/-- A token that is a name has the name for its word. -/
theorem Token.Lexes.word_of_name {chars : List Char} {offset : Nat} {ts : List Token}
    (h : Lexes chars offset ts) {t : Token} (ht : t ∈ ts) {name : String}
    (hkind : t.kind = .name name) : Word name.toList (.name name) := by
  have hfinish : t.kind.isFinish = false := by
    rw [hkind]
    rfl
  have hword := (h.word_of_mem ht hfinish).1
  rw [hkind] at hword
  obtain rfl : t.text = name := by
    rw [← hword.eq_of_name.1, String.ofList_toList]
  exact hword

/-- A name that a line assigns to is a word that stands for a name. -/
theorem Session.word_of_assign {line name : String} {nameSpan : Span} {e : Expr}
    (h : Session.read line = .ok (.assign name nameSpan e)) :
    Word name.toList (.name name) := by
  obtain ⟨ts, q, hlexes, hs, -⟩ := Session.read_eq_ok_iff.1 h
  cases hs with
  | assign ht _ _ => exact hlexes.word_of_name (by simp) ht

/-- A line of a name alone, with separators around it, says the name. -/
theorem Session.read_name {name line : String} {before behind : List Char}
    (hname : Word name.toList (.name name)) (hbefore : Blank before) (hbehind : Blank behind)
    (hline : line.toList = before ++ (name.toList ++ behind)) :
    ∃ nameSpan, Session.read line = .ok (.expr (.name name nameSpan)) := by
  have hend : (Token.Kind.name name).EndsBefore behind := by
    apply Token.Kind.endsBefore_of_separator
    intro c hc
    exact separates_of_isBlank (hbehind c (List.mem_of_mem_head? hc))
  have hlexes := Lexes.token hbefore hname hend (Nat.zero_add _).symm (.finish hbehind)
  rw [← hline] at hlexes
  exact ⟨_, Session.read_eq_ok_iff.2
    ⟨[_], _, hlexes, .expr (.of_operand (.name rfl)), Nat.zero_le _, Nat.zero_le _⟩⟩

end Reckoner
