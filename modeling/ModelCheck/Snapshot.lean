import ModelCheck.Moment
import ModelCheck.Report.Coverage
import ModelCheck.Report.Statistics

/-!
# Snapshots

A snapshot is what is known of a run at some point: how far it is, what it has
found, and the tail of what the checker printed outside its messages.
-/

namespace ModelCheck

/-- How far a run is. -/
inductive Phase where
  | notStarted
  | starting
  | parsing
  | initialStates
  | checking
  | liveness
  | finished
deriving DecidableEq, Repr, Inhabited

/-- What a run came to. -/
inductive Verdict where
  | success
  | error
deriving DecidableEq, Repr

/-- A time in a snapshot: read from the checker's message, or from the clock when the message
came. -/
inductive Timestamp where
  | reported (moment : Moment)
  | observed (moment : Moment)
deriving DecidableEq, Repr

namespace Timestamp

/-- The time itself. -/
def moment : Timestamp → Moment
  | .reported m => m
  | .observed m => m

end Timestamp

/-- An error that the checker reported. -/
structure ReportedError where
  code : Nat
  message : String
  location : Option Location
deriving DecidableEq, Repr

/-- The state of a run as it is shown to the user. -/
structure Snapshot where
  phase : Phase
  verdict : Option Verdict
  modelFile : Path
  startedAt : Option Timestamp
  finishedAt : Option Timestamp
  mode : Option String
  progress : List Statistics
  coverage : List Coverage
  errors : List ReportedError
  warnings : List String
  outputLines : List String
deriving DecidableEq, Repr

namespace Snapshot

/-- The snapshot of a run of which nothing is known yet. -/
def initial (modelFile : Path) : Snapshot where
  phase := .notStarted
  verdict := none
  modelFile := modelFile
  startedAt := none
  finishedAt := none
  mode := none
  progress := []
  coverage := []
  errors := []
  warnings := []
  outputLines := []

end Snapshot

end ModelCheck
