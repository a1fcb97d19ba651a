import Reckoner.Expr
import Reckoner.Token.Basic

/-!
# Reading tokens into a statement

From loosest to tightest: one comparison, which does not chain; sums; products; signs and `not`;
literals, names, calls, lists and parentheses. Sums and products group to the left.

Two limits keep every tree small. Parentheses, lists, calls and unary operators nest at most
`maxLevels` deep, and a statement has at most `maxOperators` binary operators.

A parser reads an expression from the front of the tokens and returns it with the tokens behind
it, of which there are always fewer. The parser of the innermost level is given to that of the
level around it, so nothing is recursive but the count of levels and the walk along the tokens.
-/

set_option autoImplicit false

namespace Reckoner

/-- How deep parentheses, lists, calls and unary operators may nest. -/
def maxLevels : Nat := 64

/-- How many binary operators a statement may have. -/
def maxOperators : Nat := 256

/-- What could have stood in the place of an unfit token. -/
inductive Expectation where
  | expression
  | closing (bracket : Bracket)
  | finish
  | fewerLevels
  | fewerOperators
deriving DecidableEq

/-- The expectation in words. -/
def Expectation.describe : Expectation → String
  | .expression => "expression"
  | .closing .round => "')'"
  | .closing .square => "']'"
  | .finish => "end of input"
  | .fewerLevels => "at most " ++ toString maxLevels ++ " levels of nesting"
  | .fewerOperators => "at most " ++ toString maxOperators ++ " binary operators"

/-- The first token that does not fit, and what was expected there. -/
structure ParseError where
  expected : Expectation
  found : Token
deriving DecidableEq

namespace ParseError

/-- Where the unfit token is. -/
def span (e : ParseError) : Span :=
  e.found.span

/-- The number of the fault. -/
def code (e : ParseError) : Nat :=
  match e.expected with
  | .expression => if e.found.kind.isFinish then 203 else 200
  | .closing _ => 201
  | .finish => 202
  | .fewerLevels => 204
  | .fewerOperators => 204

/-- The fault in words. -/
def message (e : ParseError) : String :=
  "expected " ++ e.expected.describe ++ ", found " ++ e.found.describe

end ParseError

/-- The tokens still to be read, the token of the end behind them, and the number of binary
operators that may still be read. -/
structure Cursor where
  rest : List Token
  finish : Token
  operators : Nat

namespace Cursor

/-- A cursor before the first of some tokens. Only the tokens before the first end count; tokens
without an end are ended where the last of them stops. -/
def ofTokens (tokens : List Token) : Cursor where
  rest := tokens.takeWhile fun t => !t.kind.isFinish
  finish := (tokens.find? fun t => t.kind.isFinish).getD
    (Token.finishAt (tokens.getLast?.elim 0 fun t => t.span.stop))
  operators := maxOperators

/-- The next token. -/
def current (c : Cursor) : Token :=
  match c.rest with
  | [] => c.finish
  | t :: _ => t

end Cursor

/-- Something read from the front of the tokens of a cursor. -/
structure Parsed (α : Type) (c : Cursor) where
  value : α
  next : Cursor
  shorter : next.rest.length < c.rest.length

namespace Parsed

/-- The same tokens read as something else. -/
def map {α β : Type} {c : Cursor} (f : α → β) (p : Parsed α c) : Parsed β c :=
  ⟨f p.value, p.next, p.shorter⟩

/-- What was read, seen from before one more token. -/
def behind {α : Type} {t : Token} {rest : List Token} {finish : Token} {operators count : Nat}
    (p : Parsed α ⟨rest, finish, operators⟩) : Parsed α ⟨t :: rest, finish, count⟩ :=
  ⟨p.value, p.next, Nat.lt_succ_of_lt p.shorter⟩

/-- Something read and then something else behind it, taken together. -/
def append {α β γ : Type} {c : Cursor} (f : α → β → γ) (p : Parsed α c) (q : Parsed β p.next) :
    Parsed γ c :=
  ⟨f p.value q.value, q.next, Nat.lt_trans q.shorter p.shorter⟩

end Parsed

/-- Reads something from the front of the tokens. -/
abbrev Parser (α : Type) := (c : Cursor) → Except ParseError (Parsed α c)

namespace Parser

/-- The comparison operator that a token stands for. -/
def comparison? : Token.Kind → Option BinaryOp
  | .equal => some .equal
  | .notEqual => some .notEqual
  | .less => some .less
  | .greater => some .greater
  | .lessEqual => some .lessEqual
  | .greaterEqual => some .greaterEqual
  | _ => none

/-- The operator of a sum that a token stands for. -/
def additive? : Token.Kind → Option BinaryOp
  | .plus => some .add
  | .minus => some .sub
  | _ => none

/-- The operator of a product that a token stands for. -/
def multiplicative? : Token.Kind → Option BinaryOp
  | .star => some .mul
  | .slash => some .div
  | .percent => some .mod
  | _ => none

/-- The unary operator that a token stands for. -/
def unary? : Token.Kind → Option UnaryOp
  | .minus => some .neg
  | .not => some .not
  | _ => none

/-- The value that a literal token stands for. -/
def literal? : Token.Kind → Option Value
  | .int n => some (.int n)
  | .float x => some (.float x)
  | .text s => some (.text s)
  | .bool b => some (.bool b)
  | _ => none

/-- An operand to the left, joined to an operator and the operand behind it. -/
def join (left : Expr) (right : BinaryOp × Expr) : Expr :=
  .binary right.1 left right.2 (left.span.merge right.2.span)

/-- An operator of the given class and the operand behind it, if such an operator is next. The
operator is paid for before it is passed. -/
def rightOperand? (operator? : Token.Kind → Option BinaryOp) (operand : Parser Expr) :
    (c : Cursor) → Except ParseError (Option (Parsed (BinaryOp × Expr) c))
  | ⟨[], _, _⟩ => .ok none
  | ⟨t :: rest, finish, operators⟩ =>
    match operator? t.kind with
    | none => .ok none
    | some op =>
      match operators with
      | 0 => .error ⟨.fewerOperators, t⟩
      | left + 1 =>
        (operand ⟨rest, finish, left⟩).map fun right => some (right.map (Prod.mk op)).behind

/-- Operands joined to the left for as long as an operator of the given class follows. -/
def chainFrom (operator? : Token.Kind → Option BinaryOp) (operand : Parser Expr) {c : Cursor}
    (left : Parsed Expr c) : Except ParseError (Parsed Expr c) :=
  match rightOperand? operator? operand left.next with
  | .error e => .error e
  | .ok none => .ok left
  | .ok (some right) =>
    have : right.next.rest.length < left.next.rest.length := right.shorter
    chainFrom operator? operand (left.append join right)
termination_by left.next.rest.length

/-- One or more operands joined to the left by operators of the given class. -/
def chain (operator? : Token.Kind → Option BinaryOp) (operand : Parser Expr) : Parser Expr :=
  fun c =>
    match operand c with
    | .error e => .error e
    | .ok first => chainFrom operator? operand first

/-- One operand, or two joined by a comparison. -/
def comparison (operand : Parser Expr) : Parser Expr :=
  fun c =>
    match operand c with
    | .error e => .error e
    | .ok left =>
      match rightOperand? comparison? operand left.next with
      | .error e => .error e
      | .ok none => .ok left
      | .ok (some right) => .ok (left.append join right)

/-- Comparisons of sums of products of the given operands. -/
def expressionOf (operand : Parser Expr) : Parser Expr :=
  comparison (chain additive? (chain multiplicative? operand))

/-- Passes a closing bracket and returns its span. -/
def closing (bracket : Bracket) : Parser Span
  | ⟨[], finish, _⟩ => .error ⟨.closing bracket, finish⟩
  | ⟨t :: rest, finish, operators⟩ =>
    if t.kind = .closing bracket then
      .ok ⟨t.span, ⟨rest, finish, operators⟩, Nat.lt_succ_self _⟩
    else
      .error ⟨.closing bracket, t⟩

/-- Something and the closing bracket behind it. -/
def closed {α : Type} (bracket : Bracket) (content : Parser α) : Parser (α × Span) :=
  fun c =>
    match content c with
    | .error e => .error e
    | .ok p =>
      match closing bracket p.next with
      | .error e => .error e
      | .ok close => .ok (p.append Prod.mk close)

/-- Passes a comma, if one is next. -/
def comma? : (c : Cursor) → Option (Parsed Unit c)
  | ⟨[], _, _⟩ => none
  | ⟨t :: rest, finish, operators⟩ =>
    if t.kind = .comma then some ⟨(), ⟨rest, finish, operators⟩, Nat.lt_succ_self _⟩ else none

/-- Expressions separated by commas up to a closing bracket, with the span of the bracket. A comma
may stand before the bracket. -/
def items (bracket : Bracket) (item : Parser Expr) (c : Cursor) :
    Except ParseError (Parsed (List Expr × Span) c) :=
  match closing bracket c with
  | .ok close => .ok (close.map fun span => ([], span))
  | .error unclosed =>
    if c.rest.isEmpty then .error unclosed
    else
      match item c with
      | .error e => .error e
      | .ok first =>
        match comma? first.next with
        | none =>
          match closing bracket first.next with
          | .error e => .error e
          | .ok close => .ok (first.append (fun e span => ([e], span)) close)
        | some comma =>
          have : comma.next.rest.length < c.rest.length :=
            Nat.lt_trans comma.shorter first.shorter
          match items bracket item comma.next with
          | .error e => .error e
          | .ok more =>
            .ok ((first.append (fun e _ => e) comma).append
              (fun e (es, span) => (e :: es, span)) more)
termination_by c.rest.length

/-- Reads with the parser of the next level, if there is one. -/
def nested {α : Type} (inner : Option (Parser α)) : Parser α :=
  fun c =>
    match inner with
    | none => .error ⟨.fewerLevels, c.current⟩
    | some p => p c

/-- A literal, a name, a call, a list, parentheses, or an operand behind a unary operator. The
operands inside are read by `inner`, which is absent on the last level. -/
def operand (inner : Option (Parser Expr)) : Parser Expr
  | ⟨[], finish, _⟩ => .error ⟨.expression, finish⟩
  | ⟨t :: rest, finish, operators⟩ =>
    match unary? t.kind with
    | some op =>
      (nested inner ⟨rest, finish, operators⟩).map fun e =>
        (e.map fun e => Expr.unary op e (t.span.merge e.span)).behind
    | none =>
      match literal? t.kind with
      | some v => .ok ⟨.literal v t.span, ⟨rest, finish, operators⟩, Nat.lt_succ_self _⟩
      | none =>
        match t.kind with
        | .opening .round =>
          (closed .round (nested (inner.map expressionOf)) ⟨rest, finish, operators⟩).map fun p =>
            (p.map fun (e, close) => Expr.paren e (t.span.merge close)).behind
        | .opening .square =>
          (nested (inner.map fun p => items .square (expressionOf p))
              ⟨rest, finish, operators⟩).map fun p =>
            (p.map fun (es, close) => Expr.list es (t.span.merge close)).behind
        | .name s =>
          match rest with
          | ⟨.opening .round, _, _⟩ :: rest =>
            (nested (inner.map fun p => items .round (expressionOf p))
                ⟨rest, finish, operators⟩).map fun p =>
              ((p.map fun (es, close) => Expr.call s t.span es (t.span.merge close)).behind
                : Parsed Expr ⟨_ :: rest, finish, operators⟩).behind
          | rest => .ok ⟨.name s t.span, ⟨rest, finish, operators⟩, Nat.lt_succ_self _⟩
        | _ => .error ⟨.expression, t⟩

/-- An operand inside which so many levels may still nest. -/
def operandWithin : Nat → Parser Expr
  | 0 => operand none
  | levels + 1 => operand (some (operandWithin levels))

/-- An expression. -/
def expression : Parser Expr :=
  expressionOf (operandWithin maxLevels)

/-- A statement and the cursor behind it. An assignment is told by its first two tokens. -/
def statement (c : Cursor) : Except ParseError (Statement × Cursor) :=
  match c with
  | ⟨[], finish, _⟩ => .ok (.blank finish.span, c)
  | ⟨⟨.name s, _, nameSpan⟩ :: ⟨.assign, _, _⟩ :: rest, finish, operators⟩ =>
    (expression ⟨rest, finish, operators⟩).map fun e => (.assign s nameSpan e.value, e.next)
  | _ => (expression c).map fun e => (.expr e.value, e.next)

end Parser

/-- Reads tokens as exactly one statement. -/
def parse (tokens : List Token) : Except ParseError Statement :=
  match Parser.statement (Cursor.ofTokens tokens) with
  | .error e => .error e
  | .ok (s, c) => if c.rest.isEmpty then .ok s else .error ⟨.finish, c.current⟩

end Reckoner
