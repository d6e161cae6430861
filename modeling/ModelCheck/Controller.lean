import ModelCheck.Controller.Basic

/-!
# The controller

The controller owns the only run that may be in progress. The slot holds that run
from its admission until its process has exited, or until it fails before there is
a process. The published state and the status indicator change together with the
slot. Each operation here is one step that nothing else can interrupt.
-/

namespace ModelCheck

/-- The run in the slot. -/
structure ActiveRun where
  id : RunId
  file : Path
  /-- The process of the run, missing while it is being spawned. -/
  process : Option ProcessId
  /-- Whether a stop was requested before there was a process. -/
  stopRequested : Bool
  /-- Whether the run has failed; its end then leaves the indicator hidden. -/
  failed : Bool
deriving DecidableEq, Repr

/-- The controller: the slot, the published state, the indicator, and the number of the next
run. -/
structure Controller where
  slot : Option ActiveRun
  state : RunState
  indicator : Indicator
  nextRun : RunId
deriving DecidableEq, Repr

namespace Controller

/-- A controller that nothing has been asked of. -/
def start : Controller := ⟨none, .idle, .hidden, 0⟩

/-- Whether a run is in progress. -/
def isRunning (c : Controller) : Bool := c.slot.isSome

/-- The file of the run in progress. -/
def runningFile? (c : Controller) : Option Path := c.slot.map (·.file)

/-- Switches the indicator on or off. -/
def setActive (active : Bool) (c : Controller) : Controller × List Event :=
  ({ c with indicator := if active then .active else .idle }, [.showStatus (statusItem active)])

/-- Takes the indicator away. -/
def hide (c : Controller) : Controller × List Event :=
  ({ c with indicator := .hidden }, [.hideStatus])

/-- A document's path, taken from the working directory if it is relative. A relative path stays as it
is if the working directory cannot be told. -/
def absolutePath (workingDirectory : Option Path) (path : Path) : Path :=
  if path.isAbsolute then path
  else workingDirectory.elim path fun directory => directory.join path

/-- Decides on a request to check, in this order: whether another run is in progress, whether a
document is active, and whether it is in TLA+. The file to check is fixed here. -/
def modelToCheck (workingDirectory : Option Path) (editor : Editor) (c : Controller) :
    Except Rejection Path :=
  if c.slot.isSome then .error .alreadyRunning
  else
    match editor.active with
    | none => .error .noActiveEditor
    | some document =>
      if document.isTla then .ok (absolutePath workingDirectory document.path)
      else .error .notTlaFile

/-- Puts a new run on a file into the slot. -/
def reserve (file : Path) (c : Controller) : Controller × List Event :=
  let (c, events) := c.setActive true
  ({ c with
      slot := some ⟨c.nextRun, file, none, false, false⟩
      state := .starting c.nextRun file
      nextRun := c.nextRun + 1 }, events)

/-- Gives the run its process. Says whether a stop has been requested meanwhile. -/
def attach (run : RunId) (file : Path) (process : ProcessId) (pid : Option Nat) (c : Controller) :
    Controller × Bool :=
  let c := { c with state := .running run file pid }
  match c.slot with
  | some active =>
    if active.id = run then
      ({ c with slot := some { active with process := some process } }, active.stopRequested)
    else (c, false)
  | none => (c, false)

/-- Empties the slot if it holds the run, and says what run that was. -/
def release (run : RunId) (c : Controller) : Controller × Option ActiveRun :=
  match c.slot with
  | some active => if active.id = run then ({ c with slot := none }, some active) else (c, none)
  | none => (c, none)

/-- The process of a run has exited: the run leaves the slot, and the indicator becomes idle unless
the run has failed. -/
def complete (run : RunId) (c : Controller) : Controller × List Event :=
  match c.release run with
  | (c, some active) =>
    let (c, events) := if active.failed then (c, []) else c.setActive false
    ({ c with state := .idle }, events)
  | (c, none) => (c, [])

/-- A run fails. The indicator is hidden, unless another run is in the slot. Without a process the
run leaves the slot; the process it has otherwise is returned, to be terminated. -/
def fail (run : RunId) (c : Controller) : Controller × List Event × Option ProcessId :=
  match c.slot with
  | none =>
    let (c, events) := c.hide
    (c, events, none)
  | some active =>
    if active.id ≠ run then (c, [], none)
    else
      match active.process with
      | none =>
        let (c, events) := { c with slot := none, state := .idle }.hide
        (c, events, none)
      | some process =>
        let (c, events) := { c with slot := some { active with failed := true } }.hide
        (c, events, some process)

/-- A request is dropped while its run has no process: the run leaves the slot. -/
def abandon (run : RunId) (c : Controller) : Controller × List Event :=
  match c.slot with
  | some active =>
    if active.id = run ∧ active.process = none then
      let (c, events) := { c with slot := none }.setActive false
      ({ c with state := .idle }, events)
    else (c, [])
  | none => (c, [])

/-- Requests the end of the run in progress. Without a process the request is kept until there is
one. -/
def stop (c : Controller) : Controller × List Event × StopOutcome :=
  match c.slot with
  | none => (c, [.info nothingRunningMessage], .nothingRunning)
  | some active =>
    match active.process with
    | some process => (c, [.terminate process], .terminationRequested)
    | none =>
      ({ c with slot := some { active with stopRequested := true } }, [], .terminationRequested)

end Controller

end ModelCheck
