import Reckoner.Console.Prompt
import Reckoner.Console.Script

/-!
# Runs of the command line

A run is given a command or a script or neither, perhaps with the wish to stay at the prompt. A
command wins over a script. A script that cannot be read ends the run.
-/

set_option autoImplicit false

namespace Reckoner

/-- What was found under the name of a script. -/
inductive ScriptFile where
  | source (text : String)
  | missing
  | notText

namespace ScriptFile

/-- The script in some bytes. -/
def ofBytes (bytes : ByteArray) : ScriptFile :=
  match String.fromUTF8? bytes with
  | some text => .source text
  | none => .notText

end ScriptFile

/-- What a run is asked to do, and the text of its standard input. -/
structure Invocation where
  command : Option String
  script : Option (String × ScriptFile)
  interactive : Bool
  input : String

/-- What a run printed and its exit status. -/
structure Report where
  out : String
  err : String
  status : Nat

namespace Invocation

/-- The report of a script that cannot be read. -/
def unreadable (name problem : String) : Report :=
  ⟨"", "Error: could not read " ++ name ++ ": " ++ problem ++ "\n", 2⟩

/-- What the command or the script prints, if there is one. -/
def batch (i : Invocation) : Except Report (Option Transcript) :=
  match i.command, i.script with
  | some line, _ => .ok (some (Script.runCommand .initial line))
  | none, none => .ok none
  | none, some (_, .source text) => .ok (some (Script.run .initial text))
  | none, some (name, .missing) => .error (unreadable name "No such file or directory (os error 2)")
  | none, some (name, .notText) => .error (unreadable name "stream did not contain valid UTF-8")

/-- What the run reports before any prompt, and the session that the prompt goes on with if the run
stays there. At the prompt the status is settled: failures of the lines before it do not count. -/
def opening (i : Invocation) : Report × Option Session :=
  match i.batch with
  | .error report => (report, none)
  | .ok none => (⟨"", "", 0⟩, some .initial)
  | .ok (some t) =>
    if i.interactive then (⟨t.out, t.err, 0⟩, some t.session)
    else (⟨t.out, t.err, if t.succeeded then 0 else 1⟩, none)

/-- What the prompt prints, its greeting included. -/
def prompt (s : Session) (input : String) : String :=
  Prompt.banner ++ "\n" ++ Prompt.run s (Prompt.lines input)

/-- The whole run. -/
def run (i : Invocation) : Report :=
  match i.opening with
  | (report, none) => report
  | (report, some s) => { report with out := report.out ++ prompt s i.input }

end Invocation

end Reckoner
