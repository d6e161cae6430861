import ModelCheck.Console.Markers
import ModelCheck.Snapshot
import ModelCheck.Text.Lines

/-!
# Rendering snapshots

A snapshot is shown in two ways. While a run goes on, only what is new since the
last snapshot is printed; a cursor remembers how much has been. On request, a
summary shows the snapshot as a whole.
-/

namespace ModelCheck.Console

/-- How much of the snapshots of a run has been printed. -/
structure Cursor where
  phase : Phase
  progress : Nat
  errors : Nat
  warnings : Nat
  verdict : Option Verdict
deriving DecidableEq, Repr

namespace Cursor

/-- The cursor of a run of which nothing has been printed. -/
def start : Cursor := ⟨.notStarted, 0, 0, 0, none⟩

end Cursor

/-- The line that opens the display of a run. -/
def header (m : Markers) : String :=
  let rule := m.rule ++ m.rule ++ m.rule
  rule ++ " TLA+ model checking " ++ rule

/-- The words for a phase. -/
def phaseLabel : Phase → String
  | .notStarted => "not started"
  | .starting => "starting"
  | .parsing => "parsing specification"
  | .initialStates => "computing initial states"
  | .checking => "checking"
  | .liveness => "checking temporal properties"
  | .finished => "finished"

/-- The words for the counts of a progress report. -/
def progressText (p : Statistics) : String :=
  Text.groupDigits p.generated ++ " generated, " ++ Text.groupDigits p.distinct ++ " distinct, "
    ++ Text.groupDigits p.left ++ " left"
    ++ p.diameter.elim "" fun d => " (depth " ++ toString d ++ ")"

/-- The line for an error while the run goes on: its code and the first line of its message. -/
def errorLine (m : Markers) (e : ReportedError) : String :=
  m.fail ++ " [" ++ toString e.code ++ "] " ++ Text.firstLine e.message

/-- The line for a warning: the first line of its text. -/
def warningLine (m : Markers) (w : String) : String := m.warn ++ " " ++ Text.firstLine w

/-- The line for the verdict of a run that is finished. -/
def verdictLine (m : Markers) (s : Snapshot) : String :=
  match s.verdict with
  | some .success => m.ok ++ " No errors found"
  | some .error => m.fail ++ " Finished with " ++ toString s.errors.length ++ " error(s)"
  | none => m.warn ++ " Finished without a verdict"

/-- Whether the verdict line is due: the run is finished with a verdict not printed yet. -/
def verdictDue (c : Cursor) (s : Snapshot) : Bool :=
  s.phase = .finished && s.verdict ≠ c.verdict

/-- The lines for what a snapshot adds to what has been printed. -/
def updateLines (m : Markers) (c : Cursor) (s : Snapshot) : List String :=
  (if s.phase = c.phase then [] else [m.bullet ++ " " ++ phaseLabel s.phase])
    ++ (s.progress.drop c.progress).map (fun p => "  " ++ progressText p)
    ++ (s.warnings.drop c.warnings).map (warningLine m)
    ++ (s.errors.drop c.errors).map (errorLine m)
    ++ (if verdictDue c s then [verdictLine m s] else [])

/-- The cursor after a snapshot has been printed. -/
def Cursor.advance (c : Cursor) (s : Snapshot) : Cursor where
  phase := s.phase
  progress := s.progress.length
  errors := s.errors.length
  warnings := s.warnings.length
  verdict := if verdictDue c s then s.verdict else c.verdict

/-- The line for an action that was never taken. -/
def neverEnabledLine (m : Markers) (c : Coverage) : String :=
  "  " ++ m.warn ++ " " ++ c.moduleName ++ "!" ++ c.action ++ " (line "
    ++ toString (c.range.start.line + 1) ++ ")"

/-- The lines for a coverage report, none without one. -/
def coverageLines (m : Markers) (coverage : List Coverage) : List String :=
  if coverage.isEmpty then []
  else
    let never := coverage.filter fun c => c.total = 0
    ("coverage: " ++ toString coverage.length ++ " actions, " ++ toString never.length
      ++ " never enabled") :: never.map (neverEnabledLine m)

/-- The lines for an error in a summary: its code, and its whole message below. -/
def errorLines (m : Markers) (e : ReportedError) : List String :=
  (m.fail ++ " [" ++ toString e.code ++ "]") :: (Text.lines e.message).map ("    " ++ ·)

/-- The line for the time between start and end, if both are known. -/
def elapsedLine (s : Snapshot) : List String :=
  match s.startedAt, s.finishedAt with
  | some first, some last =>
    ["time:   " ++ toString (Moment.secondsBetween first.moment last.moment) ++ "s"]
  | _, _ => []

/-- The lines of the summary of a snapshot, or of the absence of one. -/
def summaryLines (m : Markers) : Option Snapshot → List String
  | none => ["No model checking results yet"]
  | some s =>
    [header m, "model:  " ++ s.modelFile.spelling, "status: " ++ phaseLabel s.phase]
      ++ s.mode.toList.map ("mode:   " ++ ·)
      ++ s.startedAt.toList.map (fun t => "start:  " ++ t.moment.display)
      ++ elapsedLine s
      ++ s.progress.getLast?.toList.map (fun p => "states: " ++ progressText p)
      ++ coverageLines m s.coverage
      ++ s.errors.flatMap (errorLines m)
      ++ (if s.phase = .finished then [verdictLine m s] else [])

end ModelCheck.Console
