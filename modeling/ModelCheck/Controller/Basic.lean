import ModelCheck.Console
import ModelCheck.Diagnostic.Collection
import ModelCheck.Document
import ModelCheck.Failure

/-!
# The words of the controller

What can be asked of the controller, what comes of it, and the events by which it
acts on its surroundings.
-/

namespace ModelCheck

/-- Runs are numbered in the order in which they are admitted. -/
abbrev RunId := Nat

/-- Processes are numbered in the order in which they are spawned. -/
abbrev ProcessId := Nat

/-- The tool that is run on a model. -/
def checkerTool : String := "tlc2.TLC"

/-- The arguments of the checker: check the model, report coverage every minute, and mark messages
for a tool to read. -/
def checkerArguments : List String := ["-modelcheck", "-coverage", "1", "-tool"]

/-- Why a request to check is turned down. -/
inductive Rejection where
  | alreadyRunning
  | noActiveEditor
  | notTlaFile
deriving DecidableEq, Repr

namespace Rejection

/-- What the user is told. -/
def message : Rejection → String
  | .alreadyRunning => "Another model checking process is currently running"
  | .noActiveEditor => "No editor is active, cannot find a TLA+ model to check"
  | .notTlaFile => "File in the active editor is not a TLA+ file, it cannot be checked as a model"

end Rejection

/-- The action offered when another run is in the way. -/
def showRunningAction : String := "Show currently running process"

/-- What the user is told when there is nothing to stop. -/
def nothingRunningMessage : String :=
  "There are no currently running model checking processes"

/-- Why an admitted run fails. -/
inductive CheckError where
  | spawn (tool : String) (cause : Failure)
  | stream (cause : Failure)
  | diagnostics (cause : Failure)
deriving DecidableEq, Repr

namespace CheckError

/-- What the user is told. -/
def message : CheckError → String
  | .spawn tool cause => "failed to start " ++ tool ++ ": " ++ cause.outer
  | .stream cause => "error while reading model checker output: " ++ cause.outer
  | .diagnostics cause => "failed to apply diagnostics: " ++ cause.outer

end CheckError

/-- What comes of a request to check. -/
inductive CheckOutcome where
  /-- The output was read to its end and the diagnostics were applied. -/
  | completed (diagnostics : Nat)
  /-- The request was turned down and changed nothing. -/
  | rejected (reason : Rejection)
  /-- The run failed, and the user has been told. -/
  | failed (message : String)
deriving DecidableEq, Repr

namespace CheckOutcome

/-- The exit code of a program that makes one check. -/
def exitCode : CheckOutcome → Nat
  | .completed _ => 0
  | .rejected _ => 1
  | .failed _ => 1

end CheckOutcome

/-- What comes of a request to stop. -/
inductive StopOutcome where
  | terminationRequested
  | nothingRunning
deriving DecidableEq, Repr

/-- What the status line says about the controller. -/
inductive Indicator where
  /-- Nothing has been shown yet, or the last run failed. -/
  | hidden
  | idle
  | active
deriving DecidableEq, Repr

/-- The state of the controller as hosts can wait for it. -/
inductive RunState where
  | idle
  | starting (run : RunId) (file : Path)
  | running (run : RunId) (file : Path) (pid : Option Nat)
deriving DecidableEq, Repr

/-- The status item of a controller with or without a run. -/
def statusItem (active : Bool) : StatusItem :=
  if active then ⟨"TLC $(gear~spin)", "TLA+ model checking is running", .display⟩
  else ⟨"TLC", "TLA+ model checking result", .display⟩

/-- An action of the controller on its surroundings. Events of a run carry its number. -/
inductive Event where
  | spawn (run : RunId) (tool : String) (file : Path) (arguments : List String)
  | terminate (process : ProcessId)
  | revealEmpty (run : RunId)
  | update (run : RunId) (snapshot : Snapshot)
  | reveal
  | apply (run : RunId) (diagnostics : Collection)
  | info (text : String)
  | warn (text : String)
  | error (text : String)
  | offer (text action : String)
  | showStatus (item : StatusItem)
  | hideStatus
deriving DecidableEq, Repr

end ModelCheck
