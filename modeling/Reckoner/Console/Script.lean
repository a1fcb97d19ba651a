import Reckoner.Session.Basic
import Reckoner.Text.Line

/-!
# Scripts

A script is run line by line in a session. Values are printed as they are shown, blank lines print
nothing, and a failure is reported with the number of its line. A failing line does not stop the
lines after it.
-/

set_option autoImplicit false

namespace Reckoner

/-- What running some lines printed, and the session after them. -/
structure Transcript where
  session : Session
  out : String
  err : String
  succeeded : Bool

/-- What an outcome prints as a result. -/
def Outcome.printed : Outcome → String
  | .ok (some v) => v.display ++ "\n"
  | .ok none => ""
  | .error _ => ""

/-- What an outcome reports as a failure, after a label. -/
def Outcome.reported (label : String) : Outcome → String
  | .ok _ => ""
  | .error f => label ++ f.render ++ "\n"

/-- The outcome is no failure. -/
def Outcome.succeeded : Outcome → Bool
  | .ok _ => true
  | .error _ => false

namespace Script

/-- How a failure names its line. -/
def label (number : Nat) : String :=
  "line " ++ toString number ++ ": "

/-- Runs lines of which the first has the given number. -/
def runFrom (number : Nat) (s : Session) : List String → Transcript
  | [] => ⟨s, "", "", true⟩
  | line :: more =>
    let (outcome, s) := s.process line
    let later := runFrom (number + 1) s more
    { session := later.session
      out := outcome.printed ++ later.out
      err := outcome.reported (label number) ++ later.err
      succeeded := outcome.succeeded && later.succeeded }

/-- Runs the lines of a script. -/
def run (s : Session) (source : String) : Transcript :=
  runFrom 1 s (Text.lines source)

/-- Runs a single line, whose failure needs no number. -/
def runCommand (s : Session) (line : String) : Transcript :=
  let (outcome, s) := s.process line
  ⟨s, outcome.printed, outcome.reported "", outcome.succeeded⟩

end Script

end Reckoner
