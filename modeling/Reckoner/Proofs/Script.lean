import Reckoner.Console.Script

/-!
# Scripts, line by line

A script is run in two steps: its text is divided into lines, and the lines are processed one after
the other. Dividing commutes with writing two texts one below the other (`lines_append_newline`), and
a text has as many lines as line feeds, one more if it does not end with a feed. A run of lines is
known once the outcomes of its lines are: it prints the values among them and reports the failures
with the numbers of their lines (`Script.runFrom_eq`).

Main statement: a script of two parts runs like its first part and then its second, with the numbers
of the second counted on, and a script with a carriage return before every line feed runs like the
script without them (`run_append`).
-/

set_option autoImplicit false

namespace Reckoner

/-! ## Dividing a text into lines -/

namespace Text

/-- A carriage return right before a line feed does not count. -/
theorem lineChars_return (more : List Char) :
    lineChars ('\r' :: '\n' :: more) = lineChars ('\n' :: more) := by
  rw [lineChars, lineChars]

/-- A character that ends no line is the first of the line behind it, or a line by itself at the end
of the text. -/
theorem lineChars_cons {c : Char} {more : List Char} (hfeed : c ≠ '\n')
    (hreturn : ¬ (c = '\r' ∧ more.head? = some '\n')) :
    lineChars (c :: more) =
      match lineChars more with
      | [] => [[c]]
      | line :: later => (c :: line) :: later := by
  apply lineChars.eq_4 c more hfeed
  intro rest hc hmore
  apply hreturn
  rw [hmore]
  exact ⟨hc, rfl⟩

/-- What stands before a line feed is divided into its lines, one for each feed in it and one for
the feed itself, whatever stands behind. -/
theorem exists_lines (chars : List Char) :
    ∃ lines : List (List Char), lines.length = chars.count '\n' + 1 ∧
      ∀ more, lineChars (chars ++ '\n' :: more) = lines ++ lineChars more := by
  induction chars with
  | nil => exact ⟨[[]], rfl, fun more => by rw [List.nil_append, lineChars]; rfl⟩
  | cons c rest ih =>
    obtain ⟨lines, hlength, hlines⟩ := ih
    by_cases hfeed : c = '\n'
    · refine ⟨[] :: lines, ?_, ?_⟩
      · rw [hfeed, List.count_cons_self, List.length_cons, hlength]
      · intro more
        rw [hfeed, List.cons_append, lineChars, hlines]
        rfl
    have hcount : (c :: rest).count '\n' = rest.count '\n' := List.count_cons_of_ne hfeed
    have hhead : ∀ more, (rest ++ '\n' :: more).head? = (rest ++ ['\n']).head? := by
      intro more
      cases rest <;> rfl
    by_cases hreturn : c = '\r' ∧ (rest ++ ['\n']).head? = some '\n'
    · -- The return belongs to the feed behind it, be it one of `rest` or the one after `rest`.
      refine ⟨lines, by rw [hcount, hlength], ?_⟩
      intro more
      obtain ⟨tail, htail⟩ : ∃ tail, rest ++ '\n' :: more = '\n' :: tail := by
        cases rest with
        | nil => exact ⟨more, rfl⟩
        | cons d rest =>
          obtain rfl : d = '\n' := by simpa using hreturn.2
          exact ⟨rest ++ '\n' :: more, rfl⟩
      rw [List.cons_append, hreturn.1, htail, lineChars_return, ← htail, hlines]
    · -- The character joins the first line, which is there because a feed follows.
      obtain ⟨first, later, rfl⟩ := List.exists_cons_of_length_eq_add_one hlength
      refine ⟨(c :: first) :: later, by rw [hcount, ← hlength]; rfl, ?_⟩
      intro more
      rw [← hhead more] at hreturn
      rw [List.cons_append, lineChars_cons hfeed hreturn, hlines]
      rfl

/-- Two texts, one below the other, have the lines of the first and then those of the second. -/
theorem lines_append_newline (a b : String) :
    lines (a ++ "\n" ++ b) = lines (a ++ "\n") ++ lines b := by
  obtain ⟨ls, -, hlines⟩ := exists_lines a.toList
  have hfirst : lineChars (a.toList ++ ['\n']) = ls := by
    rw [hlines, lineChars, List.append_nil]
  simp [lines, hfirst, hlines]

/-- A text that ends with a line feed has as many lines as feeds. -/
theorem length_lines (a : String) : (lines (a ++ "\n")).length = a.toList.count '\n' + 1 := by
  obtain ⟨ls, hlength, hlines⟩ := exists_lines a.toList
  have hfirst : lineChars (a.toList ++ ['\n']) = ls := by
    rw [hlines, lineChars, List.append_nil]
  simp [lines, hfirst, hlength]

/-- The text with a carriage return before every line feed. -/
def withReturns (text : String) : String :=
  String.ofList (text.toList.flatMap fun c => if c = '\n' then ['\r', '\n'] else [c])

theorem lineChars_withReturns {chars : List Char} (h : '\r' ∉ chars) :
    lineChars (chars.flatMap fun c => if c = '\n' then ['\r', '\n'] else [c]) =
      lineChars chars := by
  induction chars with
  | nil => rfl
  | cons c rest ih =>
    obtain ⟨hc, hrest⟩ := not_or.1 (mt List.mem_cons.2 h)
    rw [List.flatMap_cons]
    by_cases hfeed : c = '\n'
    · rw [if_pos hfeed, hfeed, List.cons_append, List.cons_append, List.nil_append,
        lineChars_return, lineChars, lineChars, ih hrest]
    · have hreturn : ∀ more : List Char, ¬ (c = '\r' ∧ more.head? = some '\n') := by
        intro more hreturn
        exact hc hreturn.1.symm
      rw [if_neg hfeed, List.cons_append, List.nil_append, lineChars_cons hfeed (hreturn _),
        lineChars_cons hfeed (hreturn _), ih hrest]

/-- Carriage returns before the line feeds do not change the lines of a text without others. -/
theorem lines_withReturns {text : String} (h : '\r' ∉ text.toList) :
    lines (withReturns text) = lines text := by
  rw [lines, lines, withReturns, String.toList_ofList, lineChars_withReturns h]

end Text

/-! ## Runs and their outcomes -/

namespace Session

/-- The outcomes of some lines, processed one after the other. -/
def outcomes (s : Session) : List String → List Outcome
  | [] => []
  | line :: more => (s.process line).1 :: (s.process line).2.outcomes more

theorem outcomes_append (s : Session) (xs ys : List String) :
    s.outcomes (xs ++ ys) = s.outcomes xs ++ (s.processAll xs).outcomes ys := by
  induction xs generalizing s with
  | nil => rfl
  | cons line more ih =>
    rw [List.cons_append, outcomes, outcomes, ih]
    rfl

theorem length_outcomes (s : Session) (lines : List String) :
    (s.outcomes lines).length = lines.length := by
  induction lines generalizing s with
  | nil => rfl
  | cons line more ih => rw [outcomes, List.length_cons, ih, List.length_cons]

end Session

namespace Script

/-- The failures among some outcomes, each with the number of its line. The first line has the given
number. -/
def failures (number : Nat) : List Outcome → List (Nat × Failure)
  | [] => []
  | .ok _ :: more => failures (number + 1) more
  | .error f :: more => (number, f) :: failures (number + 1) more

/-- Some failures as they are reported, one after the other. -/
def report (failed : List (Nat × Failure)) : String :=
  String.join (failed.map fun (number, f) => label number ++ f.render ++ "\n")

theorem failures_append (number : Nat) (os ps : List Outcome) :
    failures number (os ++ ps) = failures number os ++ failures (number + os.length) ps := by
  induction os generalizing number with
  | nil => rfl
  | cons o os ih =>
    have hlater := ih (number + 1)
    rw [Nat.add_assoc, Nat.add_comm 1] at hlater
    cases o with
    | ok v => exact hlater
    | error f => exact congrArg ((number, f) :: ·) hlater

/-- Counting from a later number adds to the number of every failure. -/
theorem failures_add (number offset : Nat) (os : List Outcome) :
    failures (number + offset) os =
      (failures number os).map fun (n, f) => (n + offset, f) := by
  induction os generalizing number with
  | nil => rfl
  | cons o os ih =>
    have hlater := ih (number + 1)
    rw [Nat.add_right_comm] at hlater
    cases o with
    | ok v => exact hlater
    | error f => exact congrArg ((number + offset, f) :: ·) hlater

theorem report_append (failed later : List (Nat × Failure)) :
    report (failed ++ later) = report failed ++ report later := by
  rw [report, List.map_append, String.join_append]
  rfl

/-- What a run of lines prints and where it ends, told from the outcomes of its lines. -/
theorem runFrom_eq (number : Nat) (s : Session) (lines : List String) :
    runFrom number s lines =
      { session := s.processAll lines
        out := String.join ((s.outcomes lines).map Outcome.printed)
        err := report (failures number (s.outcomes lines))
        succeeded := (s.outcomes lines).all Outcome.succeeded } := by
  induction lines generalizing number s with
  | nil => rfl
  | cons line more ih =>
    rcases hstep : s.process line with ⟨o, t⟩
    cases o with
    | ok v =>
      simp [runFrom, hstep, ih, Session.outcomes, Session.processAll, failures, Outcome.reported]
    | error f =>
      simp [runFrom, hstep, ih, Session.outcomes, Session.processAll, failures, report,
        Outcome.reported]

end Script

/-- A script of two texts, one below the other, runs like the first and then, in the session that is
left by it, the second. The results are printed one after the other, the failures of the second part
are reported with their numbers counted on behind the lines of the first, the sessions at the end are
the same, and the whole succeeds exactly if both parts do. Carriage returns before the line feeds of a
script do not change its run. -/
theorem run_append (s : Session) (a b : String) :
    let first := Script.run s (a ++ "\n")
    let second := Script.run first.session b
    let whole := Script.run s (a ++ "\n" ++ b)
    let failed := Script.failures 1 (first.session.outcomes (Text.lines b))
    whole.session = second.session ∧
    whole.out = first.out ++ second.out ∧
    second.err = Script.report failed ∧
    whole.err = first.err ++
      Script.report (failed.map fun (n, f) => (n + (1 + a.toList.count '\n'), f)) ∧
    (whole.succeeded = true ↔ first.succeeded = true ∧ second.succeeded = true) ∧
    ∀ text : String, '\r' ∉ text.toList →
      Script.run s (Text.withReturns text) = Script.run s text := by
  intro first second whole failed
  have hfirst : first = Script.runFrom 1 s (Text.lines (a ++ "\n")) := rfl
  have hsecond : second = Script.runFrom 1 first.session (Text.lines b) := rfl
  have hwhole : whole = Script.runFrom 1 s (Text.lines (a ++ "\n") ++ Text.lines b) := by
    rw [← Text.lines_append_newline]
    rfl
  rw [Script.runFrom_eq] at hfirst hsecond hwhole
  have hsession : first.session = s.processAll (Text.lines (a ++ "\n")) := by rw [hfirst]
  have houtcomes := s.outcomes_append (Text.lines (a ++ "\n")) (Text.lines b)
  rw [← hsession] at houtcomes
  refine ⟨?_, ?_, ?_, ?_, ?_, ?_⟩
  · rw [hwhole, hsecond, hsession]
    exact List.foldl_append
  · rw [hwhole, hfirst, hsecond, houtcomes, List.map_append, String.join_append]
  · rw [hsecond]
  · -- The second part begins behind as many lines as the first has.
    rw [hwhole, hfirst, houtcomes, Script.failures_append, Script.report_append,
      Session.length_outcomes, Text.length_lines, Script.failures_add, Nat.add_comm 1]
  · rw [hwhole, hfirst, hsecond, houtcomes, List.all_append, Bool.and_eq_true]
  · intro text htext
    rw [Script.run, Script.run, Text.lines_withReturns htext]

/-- Two lines, of which the second says no statement. -/
def upperPart : String :=
  "x = 4\nx +"

/-- Three lines, of which the first has no token in it. -/
def lowerPart : String :=
  "#\n\nx"

/-- The first line of the lower part is the third of the whole, and the last one finds what the first
one assigned. -/
theorem run_append_lowerPart :
    let s : Session := ⟨.empty⟩
    let whole := Script.run s (upperPart ++ "\n" ++ lowerPart)
    whole.out = "4\n4\n" ∧
    whole.err = "line 2: Error [E203] at column 4: expected expression, found end of input\n" ++
      "line 3: Error [E100] at column 1: unexpected character '#'\n" ∧
    whole.succeeded = false ∧
    '\r' ∉ lowerPart.toList ∧
    Script.run s (Text.withReturns lowerPart) = Script.run s lowerPart := by
  intro s whole
  have hreturn : '\r' ∉ lowerPart.toList := by decide
  have hfirst : (Script.run s (upperPart ++ "\n")).succeeded = false := by decide +kernel
  have hprinted : (Script.run s (upperPart ++ "\n")).out ++
      (Script.run (Script.run s (upperPart ++ "\n")).session lowerPart).out = "4\n4\n" := by
    decide +kernel
  have hreported : (Script.run s (upperPart ++ "\n")).err =
      "line 2: Error [E203] at column 4: expected expression, found end of input\n" := by
    decide +kernel
  have hfailed : Script.failures 1
      ((Script.run s (upperPart ++ "\n")).session.outcomes (Text.lines lowerPart)) =
        [(1, .lex ⟨.unexpectedChar '#', ⟨0, 1⟩⟩)] := by
    decide +kernel
  obtain ⟨-, hout, -, herr, hsucceeded, hreturns⟩ := run_append s upperPart lowerPart
  rw [hreported, hfailed] at herr
  refine ⟨hout.trans hprinted, herr.trans (by rfl), ?_, hreturn, hreturns lowerPart hreturn⟩
  rw [Bool.eq_false_iff]
  intro hwhole
  exact Bool.eq_false_iff.1 hfirst (hsucceeded.1 hwhole).1

end Reckoner
