import Reckoner.Proofs.Parsing.Relocation
import Reckoner.Proofs.Tiling
import Reckoner.Session.Basic

/-!
# Layout does not matter

A line that can be read may be written anew: the texts of its tokens in their order, with separators
of any kind and number before, between and behind them, but at least one between two of them. The
new line has the same tokens but for their spans, and every session gives the same outcome for it,
but for the offset of a parse error (`process_relaid`).

Every word ends before a separator, so the words are read one by one (`Lexes.spread`). Neither the
parser nor the evaluation looks at spans (`parse_mapSpans`, `Statement.eval_mapSpans`).
-/

set_option autoImplicit false

namespace Reckoner

open Token

/-! ## Evaluation and spans -/

namespace Expr

mutual

/-- The value of an expression has nothing to do with its spans. -/
theorem eval_mapSpans (f : Span → Span) (env : Environment) :
    ∀ e : Expr, (e.mapSpans f).eval env = e.eval env
  | .literal _ _ => rfl
  | .list items _ => by simp only [mapSpans, eval, evalAll_mapSpansAll f env items]
  | .name _ _ => rfl
  | .call _ _ arguments _ => by simp only [mapSpans, eval, evalAll_mapSpansAll f env arguments]
  | .binary _ left right _ => by
    simp only [mapSpans, eval, eval_mapSpans f env left, eval_mapSpans f env right]
  | .unary _ operand _ => by simp only [mapSpans, eval, eval_mapSpans f env operand]
  | .paren inner _ => by simp only [mapSpans, eval, eval_mapSpans f env inner]

theorem evalAll_mapSpansAll (f : Span → Span) (env : Environment) :
    ∀ es : List Expr, evalAll env (mapSpansAll f es) = evalAll env es
  | [] => rfl
  | e :: more => by
    simp only [mapSpansAll, evalAll, eval_mapSpans f env e, evalAll_mapSpansAll f env more]

end

end Expr

/-- What a statement does has nothing to do with its spans. -/
theorem Statement.eval_mapSpans (f : Span → Span) (env : Environment) (s : Statement) :
    (s.mapSpans f).eval env = s.eval env := by
  cases s with
  | blank => rfl
  | expr e => simp only [Statement.mapSpans, Statement.eval, Expr.eval_mapSpans]
  | assign name nameSpan e => simp only [Statement.mapSpans, Statement.eval, Expr.eval_mapSpans]

/-! ## Lines written anew -/

namespace Token

@[simp]
theorem kind_bare (t : Token) : t.bare.kind = t.kind :=
  rfl

@[simp]
theorem text_bare (t : Token) : t.bare.text = t.text :=
  rfl

/-- The texts of the tokens, each with separators behind it. Only behind the last one there may be
none. -/
inductive Spread : List Token → List Char → Prop
  | nil : Spread [] []
  | cons {t : Token} {ts : List Token} (gap : List Char) {rest : List Char} :
      Blank gap → (ts ≠ [] → gap ≠ []) → Spread ts rest →
      Spread (t :: ts) (t.text.toList ++ (gap ++ rest))

/-- The line is made up of the texts of the tokens in their order, with separators before, between
and behind them. -/
def Relaid (ts : List Token) (line : String) : Prop :=
  ∃ lead rest, line.toList = lead ++ rest ∧ Blank lead ∧ Spread ts rest

/-- Behind the text of a token there is a separator or nothing at all. -/
theorem separates_of_spread {ts : List Token} {gap rest : List Char} (hgap : Blank gap)
    (hne : ts ≠ [] → gap ≠ []) (h : Spread ts rest) :
    ∀ c ∈ (gap ++ rest).head?, Separates c := by
  intro c hc
  cases gap with
  | cons d gap =>
    obtain rfl : d = c := by simpa using hc
    exact separates_of_isBlank (hgap d (by simp))
  | nil =>
    -- Without a separator the text before was the last.
    cases h with
    | nil => simp at hc
    | cons => exact absurd rfl (hne (by simp))

/-- Words that are written with separators between them are read as the same words. -/
theorem Lexes.spread {ts : List Token} {rest : List Char} (h : Spread ts rest)
    (hwords : ∀ t ∈ ts, Word t.text.toList t.kind) {lead : List Char} (hlead : Blank lead)
    (offset : Nat) :
    ∃ ts' stop, Lexes (lead ++ rest) offset (ts' ++ [finishAt stop]) ∧
      ts'.map Token.bare = ts.map Token.bare := by
  induction h generalizing lead offset with
  | nil =>
    refine ⟨[], offset + byteLength lead, ?_, rfl⟩
    rw [List.append_nil]
    exact Lexes.finish hlead
  | @cons t ts gap rest hgap hne hspread ih =>
    -- The separators behind this word lead the rest of the line.
    have hlater : ∀ u ∈ ts, Word u.text.toList u.kind := fun u hu => hwords u (by simp [hu])
    obtain ⟨ts', stop, hlexes, hbare⟩ :=
      ih hlater hgap (offset + byteLength lead + byteLength t.text.toList)
    have hend : t.kind.EndsBefore (gap ++ rest) :=
      Kind.endsBefore_of_separator (separates_of_spread hgap hne hspread)
    refine ⟨ofWord t.kind t.text.toList (offset + byteLength lead) :: ts', stop, ?_, ?_⟩
    · exact .token hlead (hwords t (by simp)) hend rfl hlexes
    · have hword : (ofWord t.kind t.text.toList (offset + byteLength lead)).bare = t.bare := by
        simp only [ofWord, Token.bare, Token.mapSpan, String.ofList_toList]
      rw [List.map_cons, List.map_cons, hword, hbare]

end Token

/-- A line written anew has the same tokens but for their spans. -/
theorem tokenize_relaid {line line' : String} {ts : List Token} {q : Token}
    (h : tokenize line = .ok (ts ++ [q])) (hline' : Relaid ts line') :
    ∃ ts' q', tokenize line' = .ok (ts' ++ [q']) ∧ ts'.map Token.bare = ts.map Token.bare ∧
      q'.bare = q.bare := by
  have hlexes := tokenize_eq_ok_iff.1 h
  obtain ⟨rfl, hbody⟩ := hlexes.finish_of_append
  have hwords : ∀ t ∈ ts, Word t.text.toList t.kind := by
    intro t ht
    exact (hlexes.word_of_mem (List.mem_append_left _ ht) (hbody t ht)).1
  obtain ⟨lead, rest, hchars, hlead, hspread⟩ := hline'
  obtain ⟨ts', stop, hlexes', hbare⟩ := Lexes.spread hspread hwords hlead 0
  refine ⟨ts', finishAt stop, ?_, hbare, rfl⟩
  rw [tokenize_eq_ok_iff, hchars]
  exact hlexes'

/-! ## Outcomes -/

/-- Two outcomes are the same value, the same fault of evaluation, or parse errors with the same
number, expectation and description of what was found. -/
inductive Outcome.Agree : Outcome → Outcome → Prop
  | ok (value : Option Value) : Agree (.ok value) (.ok value)
  | eval (e : EvalError) : Agree (.error (.eval e)) (.error (.eval e))
  | parse {e e' : ParseError} : e.code = e'.code → e.expected = e'.expected →
      e.found.describe = e'.found.describe → Agree (.error (.parse e)) (.error (.parse e'))

/-- Errors that differ in a span alone say the same. -/
theorem ParseError.agree_of_mapSpan {f : Span → Span} {e e' : ParseError}
    (h : e.mapSpan f = e'.mapSpan f) :
    Outcome.Agree (.error (.parse e)) (.error (.parse e')) := by
  obtain ⟨expected, kind, text, span⟩ := e
  obtain ⟨expected', kind', text', span'⟩ := e'
  simp only [ParseError.mapSpan, Token.mapSpan, ParseError.mk.injEq, Token.mk.injEq] at h
  obtain ⟨rfl, rfl, rfl, -⟩ := h
  exact .parse rfl rfl rfl

/-- Parsing without spans is parsing, and then leaving out the spans. -/
theorem parse_map_bare {ts : List Token} (hts : ∀ t ∈ ts, t.kind.isFinish = false) {q : Token}
    (hq : q.kind.isFinish = true) :
    parse ((ts ++ [q]).map Token.bare) =
      ((parse (ts ++ [q])).map Statement.bare).mapError
        (ParseError.mapSpan fun _ => Span.point 0) :=
  @parse_mapSpans (fun _ => Span.point 0) (fun _ _ => (Span.point_merge 0).symm) ts hts q hq

/-- The same tokens but for their spans give the same statement but for its spans, or errors that
say the same. -/
theorem parse_of_bare {ts ts' : List Token} {q q' : Token}
    (hts : ∀ t ∈ ts, t.kind.isFinish = false) (hq : q.kind.isFinish = true)
    (hbare : ts'.map Token.bare = ts.map Token.bare) (hbare' : q'.bare = q.bare) :
    (∃ s s', parse (ts ++ [q]) = .ok s ∧ parse (ts' ++ [q']) = .ok s' ∧ s.bare = s'.bare) ∨
      ∃ e e', parse (ts ++ [q]) = .error e ∧ parse (ts' ++ [q']) = .error e' ∧
        Outcome.Agree (.error (.parse e)) (.error (.parse e')) := by
  have hkind : ∀ {t u : Token}, t.bare = u.bare → t.kind = u.kind := by
    intro t u h
    rw [← kind_bare t, h, kind_bare]
  have hts' : ∀ t ∈ ts', t.kind.isFinish = false := by
    intro t ht
    have hmem : t.bare ∈ ts.map Token.bare := by
      rw [← hbare]
      exact List.mem_map_of_mem ht
    obtain ⟨u, hu, hut⟩ := List.mem_map.1 hmem
    rw [← hkind hut]
    exact hts u hu
  have hq' : q'.kind.isFinish = true := by
    rw [hkind hbare']
    exact hq
  -- Without their spans the two rows of tokens are one.
  have hrow : (ts ++ [q]).map Token.bare = (ts' ++ [q']).map Token.bare := by
    rw [List.map_append, List.map_append, hbare, List.map_singleton, List.map_singleton, hbare']
  have hparse := parse_map_bare hts hq
  rw [hrow, parse_map_bare hts' hq'] at hparse
  cases h : parse (ts ++ [q]) with
  | ok s =>
    cases h' : parse (ts' ++ [q']) with
    | ok s' =>
      rw [h, h'] at hparse
      exact Or.inl ⟨s, s', rfl, rfl, (Except.ok.inj hparse).symm⟩
    | error e' =>
      rw [h, h'] at hparse
      cases hparse
  | error e =>
    cases h' : parse (ts' ++ [q']) with
    | ok s' =>
      rw [h, h'] at hparse
      cases hparse
    | error e' =>
      rw [h, h'] at hparse
      exact Or.inr ⟨e, e', rfl, rfl, ParseError.agree_of_mapSpan (Except.error.inj hparse).symm⟩

/-- Statements that differ in spans alone do the same. -/
theorem Statement.eval_of_bare {s s' : Statement} (h : s.bare = s'.bare) (env : Environment) :
    s.eval env = s'.eval env := by
  rw [← Statement.eval_mapSpans (fun _ => Span.point 0) env s,
    ← Statement.eval_mapSpans (fun _ => Span.point 0) env s']
  exact congrArg (Statement.eval env) h

/-- A line written anew, with the texts of its tokens in their order and with separators of any kind
and number around them, has tokens of the same kinds with the same texts. Every session gives for it
the same value or fault of evaluation and goes on with the same environment, or gives a parse error
with the same number, expectation and description of what was found. -/
theorem process_relaid {line line' : String} {ts : List Token} {q : Token}
    (h : tokenize line = .ok (ts ++ [q])) (hline' : Relaid ts line') :
    (∃ ts' q', tokenize line' = .ok (ts' ++ [q']) ∧ ts'.map Token.kind = ts.map Token.kind ∧
      ts'.map Token.text = ts.map Token.text ∧ q'.kind = q.kind ∧ q'.text = q.text) ∧
    ∀ s : Session, Outcome.Agree (s.process line).1 (s.process line').1 ∧
      (s.process line').2 = (s.process line).2 := by
  obtain ⟨ts', q', htokens', hbare, hbare'⟩ := tokenize_relaid h hline'
  refine ⟨⟨ts', q', htokens', ?_, ?_, ?_, ?_⟩, ?_⟩
  · simpa [Function.comp_def] using congrArg (List.map Token.kind) hbare
  · simpa [Function.comp_def] using congrArg (List.map Token.text) hbare
  · simpa using congrArg Token.kind hbare'
  · simpa using congrArg Token.text hbare'
  · intro s
    obtain ⟨hq, hbody⟩ := (tokenize_eq_ok_iff.1 h).finish_of_append
    have hfinish : q.kind.isFinish = true := by
      rw [hq]
      rfl
    rcases parse_of_bare hbody hfinish hbare hbare' with
      ⟨stmt, stmt', hparse, hparse', hstmt⟩ | ⟨e, e', hparse, hparse', hagree⟩
    · have heval := Statement.eval_of_bare hstmt s.environment
      simp only [Session.process, Session.read, h, htokens', hparse, hparse', heval, and_true]
      cases stmt'.eval s.environment with
      | error e => exact .eval e
      | ok result => exact .ok result.1
    · simp only [Session.process, Session.read, h, htokens', hparse, hparse', and_true]
      exact hagree

/-- A line without separators between its tokens. It ends where an operand is due. -/
def denseLine : String :=
  String.ofList ['"', 'a', ' ', '"', '<', '=', '1', '(']

/-- The same tokens with separators of every kind around them. -/
def wideLine : String :=
  String.ofList ['\n', '"', 'a', ' ', '"', ' ', '<', '=', '\t', '\r', '1', ' ', '(', ' ']

theorem process_relaid_wideLine :
    ∃ ts, tokenize denseLine = .ok (ts ++ [finishAt 8]) ∧ Relaid ts wideLine ∧
      ∀ s : Session, Outcome.Agree (s.process denseLine).1 (s.process wideLine).1 := by
  have htokens : tokenize denseLine =
      .ok ([⟨.text "a ", "\"a \"", ⟨0, 4⟩⟩, ⟨.lessEqual, "<=", ⟨4, 6⟩⟩, ⟨.int 1, "1", ⟨6, 7⟩⟩,
        ⟨.opening .round, "(", ⟨7, 8⟩⟩] ++ [finishAt 8]) := by decide +kernel
  have hrelaid : Relaid [⟨.text "a ", "\"a \"", ⟨0, 4⟩⟩, ⟨.lessEqual, "<=", ⟨4, 6⟩⟩,
      ⟨.int 1, "1", ⟨6, 7⟩⟩, ⟨.opening .round, "(", ⟨7, 8⟩⟩] wideLine :=
    ⟨['\n'], _, String.toList_ofList, by decide,
      .cons [' '] (by decide) (by decide)
        (.cons ['\t', '\r'] (by decide) (by decide)
          (.cons [' '] (by decide) (by decide)
            (.cons [' '] (by decide) (by decide) .nil)))⟩
  exact ⟨_, htokens, hrelaid, fun s => ((process_relaid htokens hrelaid).2 s).1⟩

end Reckoner
