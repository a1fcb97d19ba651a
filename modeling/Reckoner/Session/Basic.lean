import Reckoner.Evaluation
import Reckoner.Statement.Parser
import Reckoner.Token.Line

/-!
# Sessions

A session processes lines one after the other and keeps the environment between them. A line is
read into tokens, then into a statement, then evaluated, and may fail at each of the three stages.
Only an assignment with a value changes the session.
-/

set_option autoImplicit false

namespace Reckoner

/-- Why a line has no outcome. -/
inductive Failure where
  | lex (e : LexError)
  | parse (e : ParseError)
  | eval (e : EvalError)
deriving DecidableEq

namespace Failure

/-- The number of the fault. -/
def code : Failure → Nat
  | .lex e => e.code
  | .parse e => e.code
  | .eval e => e.code

/-- The fault in words. -/
def message : Failure → String
  | .lex e => e.message
  | .parse e => e.message
  | .eval e => e.message

/-- Where the fault is in the line. A fault of evaluation is in no place. -/
def span? : Failure → Option Span
  | .lex e => some e.span
  | .parse e => some e.span
  | .eval _ => none

/-- The number of a fault as it is written. -/
def codeText (code : Nat) : String :=
  "E" ++ toString code

/-- The fault as one line. -/
def render (f : Failure) : String :=
  match f.span? with
  | some s => "Error [" ++ codeText f.code ++ "] at " ++ s.describe ++ ": " ++ f.message
  | none => "Error [" ++ codeText f.code ++ "]: " ++ f.message

end Failure

/-- What processing a line gives: a value, nothing for a blank line, or a failure. -/
abbrev Outcome := Except Failure (Option Value)

/-- The outcome as a text: the value as it is shown, or the failure as one line. -/
def Outcome.text : Outcome → String
  | .ok (some v) => v.display
  | .ok none => ""
  | .error f => f.render

/-- The state kept between lines. -/
structure Session where
  environment : Environment

namespace Session

/-- A session with the constants alone. -/
def initial : Session where
  environment := .initial

/-- The statement that a line says. -/
def read (line : String) : Except Failure Statement :=
  match tokenize line with
  | .error e => .error (.lex e)
  | .ok tokens =>
    match parse tokens with
    | .error e => .error (.parse e)
    | .ok statement => .ok statement

/-- The outcome of a line, and the session after it. -/
def process (s : Session) (line : String) : Outcome × Session :=
  match read line with
  | .error f => (.error f, s)
  | .ok statement =>
    match statement.eval s.environment with
    | .error e => (.error (.eval e), s)
    | .ok (value, env) => (.ok value, ⟨env⟩)

/-- The session after some lines. -/
def processAll (s : Session) (lines : List String) : Session :=
  lines.foldl (fun s line => (s.process line).2) s

/-- Lines that show what the language can do. -/
def exampleLines : List String :=
  ["greeting = \"hello\"",
   "answer = 6 * 7",
   "ratio = 7 / 2",
   "items = tail([1, 2, 3, 4])",
   "shout = upper(greeting) + \"!\"",
   "big = answer > 40"]

/-- The environment that the example lines build from no bindings. -/
def exampleEnvironment : Environment :=
  (processAll ⟨.empty⟩ exampleLines).environment

end Session

end Reckoner
