import Reckoner.Console.Invocation

/-!
# The program

Reads its arguments, its script and its input, and prints what the run reports. At the prompt it
answers each line before it reads the next.
-/

set_option autoImplicit false

namespace Reckoner.Main

/-- The arguments: `-c` with a command, `-i` to stay at the prompt, and the name of a script. -/
structure Options where
  command : Option String := none
  script : Option String := none
  interactive : Bool := false

/-- The options that some arguments give. -/
def Options.add (o : Options) : List String → Options
  | [] => o
  | "-c" :: line :: more => { o with command := some line }.add more
  | "-i" :: more => { o with interactive := true }.add more
  | name :: more => { o with script := some name }.add more

/-- What is found under the name of a script. -/
def load (name : String) : IO ScriptFile := do
  match ← (IO.FS.readBinFile name).toBaseIO with
  | .ok bytes => return .ofBytes bytes
  | .error _ => return .missing

/-- The line that a piece of input up to a line end gives to the prompt. -/
def promptLine (piece : String) : String :=
  (Prompt.lines piece).headD ""

/-- Answers lines of input until they end or the prompt is left. -/
partial def converse (s : Session) : IO Unit := do
  let line ← (← IO.getStdin).getLine
  if line.isEmpty then
    IO.println Prompt.farewell
  else
    match Prompt.respond s (promptLine line) with
    | (.quit, _) => return ()
    | (.print text, s) =>
      IO.println text
      converse s
    | (.silent, s) => converse s

end Reckoner.Main

open Reckoner in
/-- Runs the program on its arguments. The input is read line by line, at the prompt only. -/
def main (args : List String) : IO UInt32 := do
  let options := ({} : Main.Options).add args
  let script ←
    match options.command, options.script with
    | none, some name => pure (some (name, ← Main.load name))
    | _, _ => pure none
  let invocation : Invocation := ⟨options.command, script, options.interactive, ""⟩
  let (report, session?) := invocation.opening
  IO.print report.out
  IO.eprint report.err
  if let some session := session? then
    IO.println Prompt.banner
    Main.converse session
  return report.status.toUInt32
