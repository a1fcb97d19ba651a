import Reckoner.Numeral
import Reckoner.Token.Basic

/-!
# Reading a line into tokens

A token is first read off the front of a list of characters, without regard to where that list
stands in the line: the reading says what was found and how many characters it took. The lexer
adds the offsets. A reading that failed has taken characters as well, so the lexer can go on
behind the fault.
-/

set_option autoImplicit false

namespace Reckoner

/-- Why a token could not be read. -/
inductive LexError.Cause where
  | unexpectedChar (c : Char)
  | unterminatedText
  | invalidEscape (c : Char)
  | numberOutOfRange (text : String)
deriving DecidableEq

/-- A fault in a line, and where it is. -/
structure LexError where
  cause : LexError.Cause
  span : Span
deriving DecidableEq

namespace LexError

/-- The number of the fault. -/
def code (e : LexError) : Nat :=
  match e.cause with
  | .unexpectedChar _ => 100
  | .unterminatedText => 101
  | .invalidEscape _ => 102
  | .numberOutOfRange _ => 103

/-- The fault in words. -/
def message (e : LexError) : String :=
  match e.cause with
  | .unexpectedChar c => "unexpected character '" ++ c.toString ++ "'"
  | .unterminatedText => "unterminated string literal"
  | .invalidEscape c => "invalid escape sequence '\\" ++ c.toString ++ "'"
  | .numberOutOfRange text => "number literal '" ++ text ++ "' is out of range"

end LexError

namespace Token

/-- How many bytes a row of characters takes. -/
def byteLength : List Char → Nat
  | [] => 0
  | c :: more => c.utf8Size + byteLength more

/-- The characters that separate tokens. -/
def isBlank (c : Char) : Bool :=
  c == ' ' || c == '\t' || c == '\r' || c == '\n'

/-- The characters that begin a name. -/
def startsName (c : Char) : Bool :=
  c.isAlpha || c == '_'

/-- The characters that continue a name. -/
def continuesName (c : Char) : Bool :=
  c.isAlphanum || c == '_'

/-- What was found at the front of a row of characters. A token takes `length` of them. A fault
takes `length` as well, and lies in those after the first `skip`. -/
inductive Reading where
  | token (kind : Kind) (length : Nat)
  | fault (cause : LexError.Cause) (skip length : Nat)

/-- The operator or bracket at the front, the longer one first. -/
def symbol? : List Char → Option (Kind × Nat)
  | '=' :: '=' :: _ => some (.equal, 2)
  | '!' :: '=' :: _ => some (.notEqual, 2)
  | '<' :: '=' :: _ => some (.lessEqual, 2)
  | '>' :: '=' :: _ => some (.greaterEqual, 2)
  | '=' :: _ => some (.assign, 1)
  | '<' :: _ => some (.less, 1)
  | '>' :: _ => some (.greater, 1)
  | '+' :: _ => some (.plus, 1)
  | '-' :: _ => some (.minus, 1)
  | '*' :: _ => some (.star, 1)
  | '/' :: _ => some (.slash, 1)
  | '%' :: _ => some (.percent, 1)
  | '(' :: _ => some (.opening .round, 1)
  | ')' :: _ => some (.closing .round, 1)
  | '[' :: _ => some (.opening .square, 1)
  | ']' :: _ => some (.closing .square, 1)
  | ',' :: _ => some (.comma, 1)
  | _ => none

/-- A row of digits as an integer. -/
def readInteger (digits : List Char) : Reading :=
  match Integer.fit? (Numeral.value digits) with
  | some n => .token (.int n) digits.length
  | none => .fault (.numberOutOfRange (String.ofList digits)) 0 digits.length

/-- Digits on both sides of a point as a double. -/
def readDecimal (whole fraction : List Char) : Reading :=
  let x := Binary64.ofDecimal (Decimal.ofParts whole fraction)
  let chars := whole ++ '.' :: fraction
  if Binary64.isFinite x then .token (.float x) chars.length
  else .fault (.numberOutOfRange (String.ofList chars)) 0 chars.length

/-- The number at the front of characters that begin with a digit. A point belongs to it only if
a digit follows. -/
def readNumber (chars : List Char) : Reading :=
  let whole := chars.takeWhile Char.isDigit
  match chars.dropWhile Char.isDigit with
  | '.' :: after =>
    match after.takeWhile Char.isDigit with
    | [] => readInteger whole
    | digit :: more => readDecimal whole (digit :: more)
  | _ => readInteger whole

/-- The name or reserved word at the front of characters that begin a name. -/
def readWord (chars : List Char) : Reading :=
  let word := chars.takeWhile continuesName
  let text := String.ofList word
  .token ((Kind.ofKeyword? text).getD (.name text)) word.length

/-- The character that an escape stands for. -/
def unescape? : Char → Option Char
  | '"' => some '"'
  | '\\' => some '\\'
  | 'n' => some '\n'
  | 't' => some '\t'
  | _ => none

/-- What follows an opening quote: a text up to its closing quote, a text without one, or an
escape that stands for nothing after `before` characters. -/
inductive TextBody where
  | closed (value : List Char) (length : Nat)
  | unclosed (length : Nat)
  | badEscape (c : Char) (before : Nat)

/-- The body with one more character in front, written with `length` characters. -/
def TextBody.push (c : Char) (length : Nat) : TextBody → TextBody
  | .closed value n => .closed (c :: value) (length + n)
  | .unclosed n => .unclosed (length + n)
  | .badEscape e before => .badEscape e (length + before)

/-- Reads a text from behind its opening quote. -/
def textBody : List Char → TextBody
  | [] => .unclosed 0
  | '"' :: _ => .closed [] 1
  | ['\\'] => .unclosed 1
  | '\\' :: c :: more =>
    match unescape? c with
    | some d => (textBody more).push d 2
    | none => .badEscape c 0
  | c :: more => (textBody more).push c 1

/-- The text literal at the front of characters that begin with a quote; `body` is what follows
the quote. -/
def readText (body : List Char) : Reading :=
  match textBody body with
  | .closed value length => .token (.text (String.ofList value)) (length + 1)
  | .unclosed length => .fault .unterminatedText 0 (length + 1)
  | .badEscape c before => .fault (.invalidEscape c) (before + 1) (before + 3)

/-- Reads one token off the front of `c :: more`. -/
def read (c : Char) (more : List Char) : Reading :=
  if c = '"' then readText more
  else if c.isDigit then readNumber (c :: more)
  else if startsName c then readWord (c :: more)
  else
    match symbol? (c :: more) with
    | some (kind, length) => .token kind length
    | none => .fault (.unexpectedChar c) 0 1

/-- How many characters a reading takes. -/
def Reading.length : Reading → Nat
  | .token _ n => n
  | .fault _ _ n => n

end Token

/-- The characters of a line still to be read, and the offset of the first of them. -/
structure Lexer where
  rest : List Char
  offset : Nat

namespace Lexer

open Token

/-- A lexer at the start of a line. -/
def ofLine (line : String) : Lexer where
  rest := line.toList
  offset := 0

/-- The lexer past `n` characters. -/
def drop (l : Lexer) (n : Nat) : Lexer where
  rest := l.rest.drop n
  offset := l.offset + byteLength (l.rest.take n)

/-- The lexer past the separators in front of it. -/
def skipBlanks (l : Lexer) : Lexer :=
  l.drop (l.rest.takeWhile isBlank).length

/-- The span of the characters after the first `skip` and within the first `length`. -/
def spanOf (l : Lexer) (skip length : Nat) : Span where
  start := l.offset + byteLength (l.rest.take skip)
  stop := l.offset + byteLength (l.rest.take length)

/-- A reading with the text and the offsets that it has at this place. -/
def locate (l : Lexer) : Reading → Except LexError Token
  | .token kind n => .ok ⟨kind, String.ofList (l.rest.take n), l.spanOf 0 n⟩
  | .fault cause skip n => .error ⟨cause, l.spanOf skip n⟩

/-- Reads the next token, or the fault in its place. At the end of the line it reads the end
again and again. -/
def next (l : Lexer) : Except LexError Token × Lexer :=
  let l := l.skipBlanks
  match l.rest with
  | [] => (.ok (finishAt l.offset), l)
  | c :: more =>
    let reading := read c more
    (l.locate reading, l.drop reading.length)

end Lexer

end Reckoner
