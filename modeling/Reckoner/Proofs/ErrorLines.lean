import Reckoner.Proofs.CitedNames
import Reckoner.Proofs.CorrectPrefix
import Reckoner.Proofs.FirstFault
import Reckoner.Proofs.PairLines
import Reckoner.Session.Request

/-!
# Failures are shown on one line

A line of input without a line break that fails is answered with one line, whatever texts the session
holds (`answer_failure`). What a message repeats is a piece of the input, or a name, or a text in
quotes: a piece of the input has no line break because the input has none, a name has only letters
and digits, and between quotes a line break is written by an escape.

A failure to read the line is placed. The column is that of the first byte of the piece to blame, so
it begins a character of the line or stands behind the last.
-/

set_option autoImplicit false

namespace Reckoner

open Token

/-! ## Words in messages -/

@[simp]
theorem newline_notMem_toDigits (n : Nat) : '\n' ∉ Nat.toDigits 10 n := by
  intro hmem
  have hdigit := Nat.isDigit_of_mem_toDigits (by decide) (by decide) hmem
  exact absurd hdigit (by decide)

@[simp]
theorem BinaryOp.newline_notMem_symbol (op : BinaryOp) : '\n' ∉ op.symbol.toList := by
  cases op <;> decide

@[simp]
theorem UnaryOp.newline_notMem_symbol (op : UnaryOp) : '\n' ∉ op.symbol.toList := by
  cases op <;> decide

@[simp]
theorem Builtin.newline_notMem_name (b : Builtin) : '\n' ∉ b.name.toList := by
  cases b <;> decide

@[simp]
theorem Kind.newline_notMem_name (k : Reckoner.Kind) : '\n' ∉ k.name.toList := by
  cases k <;> decide

@[simp]
theorem Operation.newline_notMem_symbol (operation : Operation) :
    '\n' ∉ operation.symbol.toList := by
  cases operation with
  | binary op => exact op.newline_notMem_symbol
  | unary op => exact op.newline_notMem_symbol
  | function b => exact b.newline_notMem_name

@[simp]
theorem Wanted.newline_notMem_describe (wanted : Wanted) : '\n' ∉ wanted.describe.toList := by
  cases wanted <;> decide

@[simp]
theorem Arity.newline_notMem_describe (arity : Arity) : '\n' ∉ arity.describe.toList := by
  have hcount : ∀ n, '\n' ∉ (countText n).toList := by
    intro n
    unfold countText
    split <;> simp
  cases arity with
  | exactly n => exact hcount n
  | atLeast n => simp [describe, hcount n]

@[simp]
theorem Text.newline_notMem_quoted (text : String) : '\n' ∉ (Text.quoted text).toList := by
  rw [Text.quoted, String.toList_ofList]
  exact newline_notMem_quotedChars text.toList

@[simp]
theorem Expectation.newline_notMem_describe (expected : Expectation) :
    '\n' ∉ expected.describe.toList := by
  cases expected with
  | closing bracket => cases bracket <;> decide
  | expression | finish => decide
  | fewerLevels | fewerOperators => simp [describe]

/-! ## Messages -/

theorem ArgumentFault.newline_notMem_describe (fault : ArgumentFault) :
    '\n' ∉ fault.describe.toList := by
  unfold describe
  cases fault with
  | kind wanted found => simp
  | notNumeral text => simp
  | notANumber | negativeRoot | emptyList => decide

/-- The message of a fault of evaluation has no line break, except in a name that it cites. -/
theorem EvalError.newline_notMem_message {e : EvalError}
    (h : ∀ name ∈ e.cited?, '\n' ∉ name.toList) : '\n' ∉ e.message.toList := by
  unfold message
  cases e with
  | undefinedName name | unknownFunction name =>
    have hname := h name rfl
    simp [hname]
  | typeMismatch op left right => simp
  | operandMismatch op operand => simp
  | divideByZero => decide
  | overflow operation => simp
  | wrongArgCount f found => simp
  | invalidArgument f fault => simp [fault.newline_notMem_describe]

/-- The message of a lexical fault repeats no more than the characters to blame. -/
theorem Token.Fault.newline_notMem_message {front blamed : List Char} {e : LexError}
    (h : Fault front blamed e.cause) (hblamed : '\n' ∉ blamed) : '\n' ∉ e.message.toList := by
  obtain ⟨cause, span⟩ := e
  cases h with
  | char c => simpa [LexError.message] using hblamed
  | number numeral => simpa [LexError.message] using hblamed
  | text body => simp [LexError.message]
  | escape c _ => simpa [LexError.message] using hblamed

/-- The message of a parse error repeats no more than the text of the token to blame. -/
theorem ParseError.newline_notMem_message {e : ParseError} (h : '\n' ∉ e.found.text.toList) :
    '\n' ∉ e.message.toList := by
  have hfound : '\n' ∉ e.found.describe.toList := by
    unfold Token.describe
    split
    · decide
    · simpa using h
  simp [message, hfound]

theorem Failure.newline_notMem_render {f : Failure} (h : '\n' ∉ f.message.toList) :
    '\n' ∉ f.render.toList := by
  unfold render
  split
  · simp [codeText, Span.describe, h]
  · simp [codeText, h]

/-! ## Places -/

/-- A column of a line is counted in bytes from one. It begins a character or stands behind the
last. -/
structure IsColumn (line : String) (column : Nat) : Prop where
  pos : 1 ≤ column
  le : column ≤ line.utf8ByteSize + 1
  valid : String.Pos.Raw.IsValid line ⟨column - 1⟩

theorem Span.isColumn {line : String} {s : Span} (h : String.Pos.Raw.IsValid line ⟨s.start⟩) :
    IsColumn line s.column where
  pos := Nat.le_add_left 1 s.start
  le := Nat.add_le_add_right h.le_rawEndPos 1
  valid := h

/-- The text shows a failure that has no place in the line: by its number, which has three digits
and begins with the given one, and by its message, which is not empty. -/
structure ShowsFault (digit : Nat) (f : Failure) (text : String) : Prop where
  unplaced : f.span? = none
  digit : f.code / 100 = digit
  message : f.message ≠ ""
  shown : text = "Error [E" ++ toString f.code ++ "]: " ++ f.message

/-- The text shows a failure in a place of the line: by its number and its message, and between them
by the column in which the place begins. -/
structure ShowsFaultIn (line : String) (digit : Nat) (f : Failure) (place : Span) (text : String) :
    Prop where
  placed : f.span? = some place
  column : IsColumn line place.column
  digit : f.code / 100 = digit
  message : f.message ≠ ""
  shown : text = "Error [E" ++ toString f.code ++ "] at column " ++ toString place.column ++ ": " ++
    f.message

theorem LexError.message_ne_empty (e : LexError) : e.message ≠ "" := by
  unfold message
  split <;> simp

theorem ParseError.message_ne_empty (e : ParseError) : e.message ≠ "" := by
  simp [message]

theorem EvalError.message_ne_empty (e : EvalError) : e.message ≠ "" := by
  unfold message
  split <;> simp

/-- No failure is shown by its number alone. -/
theorem Failure.message_ne_empty (f : Failure) : f.message ≠ "" := by
  cases f with
  | lex e => exact e.message_ne_empty
  | parse e => exact e.message_ne_empty
  | eval e => exact e.message_ne_empty

theorem Failure.showsFault_render {f : Failure} {digit : Nat} (hdigit : f.code / 100 = digit)
    (hplace : f.span? = none) : ShowsFault digit f f.render where
  unplaced := hplace
  digit := hdigit
  message := f.message_ne_empty
  shown := by
    rw [render, hplace]
    apply String.toList_injective
    simp [codeText]

theorem Failure.showsFaultIn_render {line : String} {f : Failure} {digit : Nat} {place : Span}
    (hdigit : f.code / 100 = digit) (hplace : f.span? = some place)
    (hvalid : String.Pos.Raw.IsValid line ⟨place.start⟩) :
    ShowsFaultIn line digit f place f.render where
  placed := hplace
  column := Span.isColumn hvalid
  digit := hdigit
  message := f.message_ne_empty
  shown := by
    rw [render, hplace]
    apply String.toList_injective
    simp [codeText, Span.describe]

theorem LexError.code_div (e : LexError) : e.code / 100 = 1 := by
  unfold code
  split <;> rfl

theorem ParseError.code_div (e : ParseError) : e.code / 100 = 2 := by
  unfold code
  split
  · split <;> rfl
  all_goals rfl

theorem EvalError.code_div (e : EvalError) : e.code / 100 = 3 := by
  unfold code
  split <;> rfl

/-! ## Pieces of the line -/

/-- A piece of a line without line breaks has none. -/
theorem newline_notMem_piece {line : String} (hline : '\n' ∉ line.toList)
    {before piece behind : List Char} (h : line.toList = before ++ (piece ++ behind)) :
    '\n' ∉ piece := by
  intro hmem
  apply hline
  rw [h]
  exact List.mem_append_right before (List.mem_append_left behind hmem)

theorem LexError.newline_notMem_message {line : String} (hline : '\n' ∉ line.toList) {e : LexError}
    (h : tokenize line = .error e) : '\n' ∉ e.message.toList := by
  obtain ⟨before, front, blamed, behind, hchars, -, -, hfault⟩ := exists_blamed h
  exact hfault.newline_notMem_message (newline_notMem_piece hline hchars)

theorem LexError.isValid_start {line : String} {e : LexError} (h : tokenize line = .error e) :
    String.Pos.Raw.IsValid line ⟨e.span.start⟩ := by
  obtain ⟨before, front, blamed, behind, hchars, hstart, -⟩ := exists_blamed h
  exact hstart ▸ isValid_of_append hchars

/-- A parse error blames one of the tokens. -/
theorem found_mem_of_parse {body : List Token} (hbody : ∀ t ∈ body, t.kind.isFinish = false)
    {q : Token} (hq : q.kind.isFinish = true) {e : ParseError}
    (h : parse (body ++ [q]) = .error e) : e.found ∈ body ++ [q] := by
  rw [← Parser.soleStatement_ofTokens, Cursor.ofTokens_append hbody hq] at h
  obtain ⟨us, cost, d, hd, hfound, -⟩ := Parser.soleStatement_fails rfl h
  obtain ⟨rest, hrow⟩ := hd.exists_current
  rw [hrow, ← hfound]
  simp

/-- The token that a parse error blames is a piece of the line. -/
theorem slice?_of_parse {line : String} {ts : List Token} (htokens : tokenize line = .ok ts)
    {e : ParseError} (h : parse ts = .error e) : e.span.slice? line = some e.found.text := by
  have hlexes : Lexes line.toList 0 ts := tokenize_eq_ok_iff.1 htokens
  obtain ⟨body, hts, hbody⟩ := hlexes.exists_finish
  have hslices := hlexes.slice?_span [] rfl
  rw [List.nil_append, String.ofList_toList] at hslices
  apply hslices
  rw [hts] at h ⊢
  exact found_mem_of_parse hbody rfl h

/-- **One line for a failure.** If a line without line breaks fails, the answer is one line. For a
line that cannot be read it gives the number of the fault, the column of the line in which the piece
to blame begins, and the message; for one that can be read but has no value the number and the
message. -/
theorem answer_failure (s : Session) {line : String} (hline : '\n' ∉ line.toList) {f : Failure}
    (h : (s.process line).1 = .error f) :
    '\n' ∉ (s.answer (.process line)).1.toList ∧
    match f with
    | .lex e => ShowsFaultIn line 1 f e.span (s.answer (.process line)).1
    | .parse e => ShowsFaultIn line 2 f e.span (s.answer (.process line)).1
    | .eval _ => ShowsFault 3 f (s.answer (.process line)).1 := by
  have htext : (s.answer (.process line)).1 = f.render := by
    have hanswer : (s.answer (.process line)).1 = (s.process line).1.text := rfl
    rw [hanswer, h]
    rfl
  rw [htext]
  rcases Session.failure_cases h with ⟨e, rfl, htokens⟩ | ⟨e, ts, rfl, htokens, hparse⟩ |
    ⟨e, statement, rfl, -, -⟩
  · -- The line has no tokens, and the characters to blame are a piece of it.
    constructor
    · exact Failure.newline_notMem_render (LexError.newline_notMem_message hline htokens)
    · exact Failure.showsFaultIn_render e.code_div rfl (LexError.isValid_start htokens)
  · -- The tokens say nothing, and the one to blame is a piece of the line.
    have hslice := slice?_of_parse htokens hparse
    constructor
    · obtain ⟨before, behind, hchars, -⟩ := Span.slice?_eq_some_iff.1 hslice
      have hpiece := newline_notMem_piece hline hchars
      exact Failure.newline_notMem_render (ParseError.newline_notMem_message hpiece)
    · exact Failure.showsFaultIn_render e.code_div rfl (Span.isValid_of_slice? hslice).1
  · -- There is no value. What the message repeats need not be in the line, if it is no name.
    constructor
    · apply Failure.newline_notMem_render
      apply EvalError.newline_notMem_message
      intro name hname
      exact newline_notMem_of_isName (Session.isName_of_cited h name hname)
    · exact Failure.showsFault_render e.code_div rfl

/-- A session in which a text of two lines is bound. -/
def twoLineSession : Session :=
  ⟨Environment.empty.assign "x" (.text "a\nb")⟩

/-- A bracket that nothing is open for, behind a character of two bytes. -/
def strayBracket : String :=
  String.ofList ['"', 'é', '"', ')']

/-- The fault of a text that is no number repeats both its lines in one. The stray bracket is the
fourth character and the fifth byte. -/
theorem answer_failure_strayBracket :
    ((twoLineSession.process "num(x)").1 =
        .error (.eval (.invalidArgument .num (.notNumeral "a\nb"))) ∧
      '\n' ∉ (twoLineSession.answer (.process "num(x)")).1.toList ∧
      ShowsFault 3 (.eval (.invalidArgument .num (.notNumeral "a\nb")))
        (twoLineSession.answer (.process "num(x)")).1) ∧
    (twoLineSession.process strayBracket).1 =
        .error (.parse ⟨.finish, ⟨.closing .round, ")", ⟨4, 5⟩⟩⟩) ∧
      ShowsFaultIn strayBracket 2 (.parse ⟨.finish, ⟨.closing .round, ")", ⟨4, 5⟩⟩⟩) ⟨4, 5⟩
        (twoLineSession.answer (.process strayBracket)).1 := by
  have heval : (twoLineSession.process "num(x)").1 =
      .error (.eval (.invalidArgument .num (.notNumeral "a\nb"))) := by
    decide +kernel
  have hparse : (twoLineSession.process strayBracket).1 =
      .error (.parse ⟨.finish, ⟨.closing .round, ")", ⟨4, 5⟩⟩⟩) := by
    decide +kernel
  have hbracket := answer_failure twoLineSession (by decide) hparse
  exact ⟨⟨heval, answer_failure twoLineSession (by decide) heval⟩, hparse, hbracket.2⟩

end Reckoner
