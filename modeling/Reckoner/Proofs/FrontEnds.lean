import Mathlib.Data.List.Forall2
import Reckoner.Console.Invocation
import Reckoner.Proofs.Reading
import Reckoner.Proofs.Script
import Reckoner.Session.Request

/-!
# One session behind three front ends

Lines reach a session from a script, from the prompt, or as the requests of a host program. All three
process them in the same way and differ in what they make of the outcomes: a host program is answered
with a text for every line, the prompt prints the answers that are not empty, and a script prints the
answers of the lines with a value, be they empty or not, and reports those of the lines that failed
with their numbers.

Main statement: the three agree on every sequence of lines that the prompt does not take for its own
commands (`frontEnds_agree`). A script is written with a line feed between two lines, and may end with
one more or not.
-/

set_option autoImplicit false

namespace Reckoner

/-! ## Scripts with given lines -/

namespace Text

/-- The text has no character at which a line can end. -/
def OneLine (text : String) : Prop :=
  '\r' ∉ text.toList ∧ '\n' ∉ text.toList

/-- One line is read from its characters, with a line feed behind them or without. Only where nothing
is written at all there is no line. -/
theorem lineChars_of_oneLine {chars ending : List Char} (hreturn : '\r' ∉ chars)
    (hfeed : '\n' ∉ chars) (hending : ending = [] ∨ ending = ['\n']) (hne : chars ++ ending ≠ []) :
    lineChars (chars ++ ending) = [chars] := by
  induction chars with
  | nil =>
    rcases hending with rfl | rfl
    · exact absurd rfl hne
    · rfl
  | cons c rest ih =>
    obtain ⟨hc, hrest⟩ := not_or.1 (mt List.mem_cons.2 hreturn)
    obtain ⟨hc', hrest'⟩ := not_or.1 (mt List.mem_cons.2 hfeed)
    rw [List.cons_append, lineChars_cons (fun h => hc' h.symm) (fun h => hc h.1.symm)]
    by_cases hempty : rest ++ ending = []
    · -- The character is the last one.
      obtain ⟨rfl, rfl⟩ := List.append_eq_nil_iff.1 hempty
      rfl
    · rw [ih hrest hrest' hempty]

theorem lines_of_oneLine {line ending : String} (h : OneLine line)
    (hending : ending = "" ∨ ending = "\n") (hne : line ++ ending ≠ "") :
    lines (line ++ ending) = [line] := by
  have hchars : lineChars (line.toList ++ ending.toList) = [line.toList] := by
    apply lineChars_of_oneLine h.1 h.2
    · rcases hending with rfl | rfl
      · exact Or.inl rfl
      · exact Or.inr rfl
    · rw [← String.toList_append]
      exact mt String.toList_eq_nil_iff.1 hne
  rw [lines, String.toList_append, hchars, List.map_singleton, String.ofList_toList]

end Text

/-! ## Lines without a value -/

theorem Statement.exists_blank_of_eval {statement : Statement} {env env' : Environment}
    (h : statement.eval env = .ok (none, env')) : ∃ span, statement = .blank span := by
  cases statement with
  | blank span => exact ⟨span, rfl⟩
  | expr e =>
    rw [eval] at h
    split at h <;> simp at h
  | assign name nameSpan e =>
    rw [eval] at h
    split at h <;> simp at h

namespace Session

/-- Nothing happens in a blank line. -/
theorem process_of_blank {line : String} (h : Token.Blank line.toList) (s : Session) :
    s.process line = (.ok none, s) := by
  obtain ⟨span, hread⟩ := exists_read_blank_iff.2 h
  rw [process, hread]
  rfl

/-- The lines that succeed without a value are the blank ones. -/
theorem process_fst_eq_none_iff {s : Session} {line : String} :
    (s.process line).1 = .ok none ↔ Token.Blank line.toList := by
  constructor
  · intro h
    apply exists_read_blank_iff.1
    unfold process at h
    split at h
    · simp at h
    · next statement hread =>
      split at h
      · simp at h
      · next value env heval =>
        obtain rfl : value = none := by simpa using h
        obtain ⟨span, rfl⟩ := Statement.exists_blank_of_eval heval
        exact ⟨span, hread⟩
  · intro h
    rw [process_of_blank h]

theorem outcomes_eq_none_iff (s : Session) (lines : List String) :
    List.Forall₂ (fun line o => o = .ok none ↔ Token.Blank line.toList) lines
      (s.outcomes lines) := by
  induction lines generalizing s with
  | nil => exact .nil
  | cons line more ih => exact .cons process_fst_eq_none_iff (ih _)

end Session

/-! ## What a script prints -/

namespace Script

/-- An empty line at the end can be left out. -/
theorem runFrom_empty (number : Nat) (s : Session) : runFrom number s [""] = runFrom number s [] := by
  have hempty : s.process "" = (.ok none, s) := Session.process_of_blank (by simp [Token.Blank]) s
  simp only [runFrom, hempty]
  rfl

/-- A script made of some lines runs them, whether or not it ends with a line feed. A feed behind the
last line makes it no longer, and without one a last line that is empty is not there: in both cases
nothing happens in what is added or missing. -/
theorem runFrom_lines {lines : List String} (h : ∀ line ∈ lines, Text.OneLine line)
    {ending : String} (hending : ending = "" ∨ ending = "\n") (number : Nat) (s : Session) :
    runFrom number s (Text.lines (String.intercalate "\n" lines ++ ending)) =
      runFrom number s lines := by
  induction lines generalizing number s with
  | nil =>
    rcases hending with rfl | rfl
    · rfl
    · exact runFrom_empty number s
  | cons line more ih =>
    obtain ⟨hline, hmore⟩ := List.forall_mem_cons.1 h
    cases more with
    | nil =>
      rw [String.intercalate_singleton]
      by_cases hne : line ++ ending = ""
      · obtain ⟨rfl, rfl⟩ := String.append_eq_empty_iff.1 hne
        exact (runFrom_empty number s).symm
      · rw [Text.lines_of_oneLine hline hending hne]
    | cons next more =>
      have hfeed : line ++ "\n" ≠ "" := by simp
      have hlines : Text.lines (line ++ "\n") = [line] :=
        Text.lines_of_oneLine hline (Or.inr rfl) hfeed
      rw [String.intercalate_cons_cons, String.append_assoc, Text.lines_append_newline, hlines,
        List.singleton_append]
      simp only [runFrom, ih hmore]

/-- What a script prints for a line with the outcome `o` that is answered with `text`: the answer, if
the line gave a value. -/
def resultLine (o : Outcome) (text : String) : String :=
  match o with
  | .ok (some _) => text ++ "\n"
  | .ok none => ""
  | .error _ => ""

/-- What a script reports for a line with the given number and the outcome `o` that is answered with
`text`: the number and the answer, if the line failed. -/
def failureLine (number : Nat) (o : Outcome) (text : String) : String :=
  match o with
  | .ok _ => ""
  | .error _ => "line " ++ toString number ++ ": " ++ text ++ "\n"

theorem resultLine_text (o : Outcome) : resultLine o o.text = o.printed := by
  rcases o with f | (_ | v) <;> rfl

/-- The report of a run, line by line. -/
theorem report_failures (number : Nat) (os : List Outcome) :
    report (failures number os) = String.join ((os.zip (os.map Outcome.text)).mapIdx
      fun i (o, text) => failureLine (i + number) o text) := by
  induction os generalizing number with
  | nil => rfl
  | cons o os ih =>
    have hlater := ih (number + 1)
    have hshift : (fun i (line : Outcome × String) =>
          failureLine (i + (number + 1)) line.1 line.2) =
        fun i line => failureLine (i + 1 + number) line.1 line.2 := by
      funext i line
      rw [Nat.add_assoc, Nat.add_comm 1]
    rw [hshift] at hlater
    rw [List.map_cons, List.zip_cons_cons, List.mapIdx_cons, String.join_cons, ← hlater, Nat.zero_add]
    cases o with
    | ok v => exact String.empty_append.symm
    | error f =>
      rw [failures, report, List.map_cons, String.join_cons]
      rfl

/-- Lines do not all succeed exactly if one of them fails. -/
theorem all_succeeded_eq_false_iff {os : List Outcome} :
    os.all Outcome.succeeded = false ↔ ∃ f, .error f ∈ os := by
  rw [List.all_eq_false]
  constructor
  · rintro ⟨o, ho, hfailed⟩
    cases o with
    | ok v => exact absurd rfl hfailed
    | error f => exact ⟨f, ho⟩
  · rintro ⟨f, hf⟩
    exact ⟨.error f, hf, Bool.false_ne_true⟩

end Script

/-! ## The other front ends -/

/-- The answers to a host program are the outcomes as texts. -/
theorem Session.answerAll_process (s : Session) (lines : List String) :
    s.answerAll (lines.map .process) = ((s.outcomes lines).map Outcome.text, s.processAll lines) := by
  induction lines generalizing s with
  | nil => rfl
  | cons line more ih =>
    simp only [List.map_cons, answerAll, answer, ih]
    rfl

namespace Prompt

/-- The lines that the prompt takes for commands, without the white space around them. -/
def commands : List String :=
  ["exit", "quit", "help", "env"]

/-- The replies to some lines, one after the other, and the session after the last. -/
def respondAll (s : Session) : List String → List Reply × Session
  | [] => ([], s)
  | line :: more =>
    let (reply, s) := respond s line
    let (replies, s) := respondAll s more
    (reply :: replies, s)

theorem ofText_eq (text : String) :
    Reply.ofText text = if text = "" then .silent else .print text := by
  simp only [Reply.ofText, String.isEmpty_iff]

/-- A line that is no command is processed, and its answer printed unless it is empty. -/
theorem respond_of_notMem {line : String} (h : Text.trim line ∉ commands) (s : Session) :
    respond s line = (.ofText (s.process line).1.text, (s.process line).2) := by
  unfold respond
  split
  · next heq => exact absurd (by rw [heq]; decide) h
  · next heq => exact absurd (by rw [heq]; decide) h
  · next heq => exact absurd (by rw [heq]; decide) h
  · next heq => exact absurd (by rw [heq]; decide) h
  · rfl

theorem respondAll_of_notMem {lines : List String} (h : ∀ line ∈ lines, Text.trim line ∉ commands)
    (s : Session) :
    respondAll s lines =
      ((s.outcomes lines).map fun o => Reply.ofText o.text, s.processAll lines) := by
  induction lines generalizing s with
  | nil => rfl
  | cons line more ih =>
    obtain ⟨hline, hmore⟩ := List.forall_mem_cons.1 h
    simp only [respondAll, respond_of_notMem hline, ih hmore]
    rfl

end Prompt

/-- Some lines, none of them a command of the prompt, end in the same session if they are run as a
script, typed at the prompt, or processed for a host program. The prompt prints the answers to the
host program that are not empty. The script prints the answers to the lines with a value and reports
the answers to the lines that failed with their numbers; the other lines are the blank ones. Its status
is one exactly if some line failed. -/
theorem frontEnds_agree {lines : List String} (hlines : ∀ line ∈ lines, Text.OneLine line)
    (hcommands : ∀ line ∈ lines, Text.trim line ∉ Prompt.commands) {ending : String}
    (hending : ending = "" ∨ ending = "\n") (name input : String) :
    let source := String.intercalate "\n" lines ++ ending
    let report := Invocation.run ⟨none, some (name, .source source), false, input⟩
    let prompted := Prompt.respondAll .initial lines
    let hosted := Session.initial.answerAll (lines.map .process)
    let outcomes := Session.initial.outcomes lines
    (Script.run .initial source).session = hosted.2 ∧
    prompted.2 = hosted.2 ∧
    hosted.1 = outcomes.map Outcome.text ∧
    List.Forall₂ (fun line o => o = .ok none ↔ Token.Blank line.toList) lines outcomes ∧
    prompted.1 = hosted.1.map (fun text => if text = "" then .silent else .print text) ∧
    report.out = String.join (List.zipWith Script.resultLine outcomes hosted.1) ∧
    report.err = String.join ((outcomes.zip hosted.1).mapIdx fun i (o, text) =>
      Script.failureLine (i + 1) o text) ∧
    (report.status = 1 ↔ ∃ f, .error f ∈ outcomes) := by
  intro source report prompted hosted outcomes
  have hscript : Script.run .initial source =
      ⟨Session.initial.processAll lines, String.join (outcomes.map Outcome.printed),
        Script.report (Script.failures 1 outcomes), outcomes.all Outcome.succeeded⟩ := by
    rw [Script.run, Script.runFrom_lines hlines hending, Script.runFrom_eq]
  have hreport : report = ⟨(Script.run .initial source).out, (Script.run .initial source).err,
      if (Script.run .initial source).succeeded then 0 else 1⟩ := rfl
  rw [hscript] at hreport
  have hhosted : hosted = (outcomes.map Outcome.text, Session.initial.processAll lines) :=
    Session.initial.answerAll_process lines
  have hprompted : prompted = (outcomes.map fun o => .ofText o.text,
      Session.initial.processAll lines) :=
    Prompt.respondAll_of_notMem hcommands .initial
  refine ⟨?_, ?_, ?_, Session.initial.outcomes_eq_none_iff lines, ?_, ?_, ?_, ?_⟩
  · rw [hscript, hhosted]
  · rw [hprompted, hhosted]
  · rw [hhosted]
  · rw [hprompted, hhosted, List.map_map]
    apply List.map_congr_left
    intro o _
    exact Prompt.ofText_eq o.text
  · rw [hreport, hhosted, List.zipWith_map_right, List.zipWith_self]
    simp only [Script.resultLine_text]
  · rw [hreport, hhosted, Script.report_failures]
  · rw [hreport, ← Script.all_succeeded_eq_false_iff]
    cases outcomes.all Outcome.succeeded <;> simp

/-- A line with an empty text as its value, a blank line, and a line that says no statement. -/
def quietLines : List String :=
  ["x = \"\"", " ", "x +"]

/-- An empty value is printed by a script and not by the prompt, a blank line by neither. -/
theorem frontEnds_agree_quietLines :
    let failure := "Error [E203] at column 4: expected expression, found end of input"
    let report := Invocation.run
      ⟨none, some ("quiet", .source (String.intercalate "\n" quietLines ++ "\n")), false, ""⟩
    (∀ line ∈ quietLines, Text.OneLine line) ∧
    (∀ line ∈ quietLines, Text.trim line ∉ Prompt.commands) ∧
    (Session.initial.answerAll (quietLines.map .process)).1 = ["", "", failure] ∧
    (Prompt.respondAll .initial quietLines).1 = [.silent, .silent, .print failure] ∧
    report.out = "\n" ∧ report.err = "line 3: " ++ failure ++ "\n" ∧ report.status = 1 := by
  intro failure report
  have hlines : ∀ line ∈ quietLines, Text.OneLine line := by simp [quietLines, Text.OneLine]
  have hcommands : ∀ line ∈ quietLines, Text.trim line ∉ Prompt.commands := by
    simp only [quietLines, List.forall_mem_cons]
    decide
  have houtcomes : Session.initial.outcomes quietLines = [.ok (some (.text "")), .ok none,
      .error (.parse ⟨.expression, ⟨.finish, "", ⟨3, 3⟩⟩⟩)] := by
    decide +kernel
  obtain ⟨-, -, hhosted, -, hprompted, hout, herr, hstatus⟩ :=
    frontEnds_agree hlines hcommands (Or.inr rfl) "quiet" ""
  rw [houtcomes] at hhosted hout herr hstatus
  rw [hhosted] at hprompted hout herr
  refine ⟨hlines, hcommands, hhosted, hprompted, hout, herr, hstatus.2 ?_⟩
  exact ⟨_, List.mem_of_getElem? (i := 2) rfl⟩

end Reckoner
