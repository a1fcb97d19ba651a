import Reckoner.Console.Backspace
import Reckoner.Help
import Reckoner.Session.Basic
import Reckoner.Text.Blank
import Reckoner.Text.Line

/-!
# The prompt

A line at the prompt is one of a few commands, told without regard to white space around them, or
a line for the session. Backspaces in what was typed have been obeyed by then.
-/

set_option autoImplicit false

namespace Reckoner.Prompt

/-- What the prompt does after a line. -/
inductive Reply where
  | quit
  | print (text : String)
  | silent
deriving DecidableEq

/-- The reply to an answer of the session: an empty one is not printed. -/
def Reply.ofText (text : String) : Reply :=
  if text.isEmpty then .silent else .print text

/-- The reply to a line, and the session after it. -/
def respond (s : Session) (line : String) : Reply × Session :=
  match Text.trim line with
  | "exit" => (.quit, s)
  | "quit" => (.quit, s)
  | "help" => (.print Help.text, s)
  | "env" => (.print s.environment.pairsText, s)
  | _ =>
    let (outcome, s) := s.process line
    (.ofText outcome.text, s)

/-- The line that greets. -/
def banner : String :=
  "pils " ++ Help.version ++ " (type 'help' for help, 'exit' to leave)"

/-- What is printed where the lines end before the prompt is left. -/
def farewell : String := "CTRL-D"

/-- The lines that some input gives to the prompt. -/
def lines (input : String) : List String :=
  (Text.lines input).map Backspace.obey

/-- What the prompt prints for some lines. -/
def run (s : Session) : List String → String
  | [] => farewell ++ "\n"
  | line :: more =>
    match respond s line with
    | (.quit, _) => ""
    | (.print text, s) => text ++ "\n" ++ run s more
    | (.silent, s) => run s more

end Reckoner.Prompt
