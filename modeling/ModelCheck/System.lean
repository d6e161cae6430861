import ModelCheck.Controller
import ModelCheck.Output.Reader
import ModelCheck.Process.Exit

/-!
# The controller among its tasks and processes

Requests are carried out by tasks. A task waits at a few places only: while its
process is spawned, while the user has an offer to answer, while there is no
output to read, and while the diagnostics are applied. Every step from one such
place to the next is atomic; steps of different tasks, exits of processes and
requests to stop may come in any order. A process that has been spawned also has
a hook, which waits for its exit.
-/

namespace ModelCheck

/-- Tasks are numbered in the order of their creation. -/
abbrev TaskId := Nat

/-- What a task has been asked to do. -/
inductive Request where
  | check
  | command (c : Command)
  | waitIdle
deriving DecidableEq, Repr

/-- What a task ends with. -/
inductive TaskResult where
  | checked (outcome : CheckOutcome)
  | stopped (outcome : StopOutcome)
  | displayed
  | idle
  | cancelled
deriving DecidableEq, Repr

/-- Where a task is. -/
inductive Stage where
  /-- The task has not begun. -/
  | created (request : Request)
  /-- The user has been offered to see the run that is in the way. -/
  | offering
  /-- The process of the run is being spawned. -/
  | spawning (run : RunId) (file : Path)
  /-- The output of the run's process is being read. -/
  | reading (run : RunId) (process : ProcessId) (reader : Output.Reader)
  /-- The sink applies the diagnostics of the run, so many in all. -/
  | applying (run : RunId) (process : ProcessId) (total : Nat)
  /-- The task waits until no run is in progress. -/
  | waiting
  | ended (result : TaskResult)

/-- What a request for termination does to a process. -/
inductive Termination where
  /-- The output ends and the process exits, killed. -/
  | kill
  /-- Nothing happens. -/
  | ignore
  /-- The request fails. -/
  | fail
deriving DecidableEq, Repr

/-- Whether the exit of a process can be reported, and has been. -/
inductive ExitReport where
  | pending
  | reported (exit : ProcessExit)
deriving DecidableEq, Repr

/-- A spawned process, as the controller's side sees it. -/
structure Process where
  run : RunId
  /-- The number by which the machine knows it, if it has one. -/
  pid : Option Nat
  termination : Termination
  /-- What has arrived on the output and has not been read. -/
  arrived : List Output.Chunk
  /-- Whether more output may arrive. -/
  writable : Bool
  /-- Whether anybody reads the output. -/
  readable : Bool
  exit : ExitReport
  /-- Whether the completion hook still waits for the exit. -/
  hooked : Bool
deriving DecidableEq, Repr

namespace Process

/-- The code of a process that has been killed. -/
def killedCode : Int := 137

/-- A process that has just been spawned for a run. -/
def spawned (run : RunId) (pid : Option Nat) (termination : Termination) : Process where
  run := run
  pid := pid
  termination := termination
  arrived := []
  writable := true
  readable := true
  exit := .pending
  hooked := true

/-- Reports the exit, if it has not been reported. -/
def report (exit : ProcessExit) (p : Process) : Process :=
  match p.exit with
  | .pending => { p with exit := .reported exit }
  | .reported _ => p

/-- The process after a request to terminate it. -/
def terminate (p : Process) : Process :=
  match p.termination with
  | .kill => { p with writable := false }.report (.killed (some killedCode))
  | .ignore => p
  | .fail => p

/-- The process after something has been written to its output, which is lost if nobody reads. -/
def write (chunk : Output.Chunk) (p : Process) : Process :=
  if p.writable && p.readable then { p with arrived := p.arrived ++ [chunk] } else p

end Process

/-- Where a system runs: its working directory, unless that cannot be told, and the zone in which times
are told there. -/
structure Site where
  workingDirectory : Option Path
  zone : Zone

namespace Site

/-- A directory where the time is told in UTC. -/
instance : Coe Path Site := ⟨fun directory => ⟨some directory, .utc⟩⟩

/-- A reader for the output of a run on a file. -/
def reader (file : Path) (site : Site) : Output.Reader :=
  .start file Output.defaultTailLimit site.zone

end Site

/-- The controller with the editor, the tasks and the processes. -/
structure System where
  site : Site
  editor : Editor
  controller : Controller
  tasks : List Stage
  processes : List Process

namespace System

/-- A system in which nothing has happened. -/
def start (site : Site) : System := ⟨site, .empty, .start, [], []⟩

/-- Puts a task at a stage. -/
def setTask (task : TaskId) (stage : Stage) (s : System) : System :=
  { s with tasks := s.tasks.set task stage }

/-- Changes a process. -/
def modifyProcess (process : ProcessId) (f : Process → Process) (s : System) : System :=
  { s with processes := s.processes.modify process f }

/-- Replaces the controller by what an operation has made of it. -/
def setController (c : Controller) (s : System) : System := { s with controller := c }

/-- Requests the termination of a process. -/
def terminate (process : ProcessId) (s : System) : System × List Event :=
  (s.modifyProcess process Process.terminate, [.terminate process])

/-! ### The steps of a check -/

/-- Begins a check: the request is turned down, or the run is reserved and its process asked for. -/
def beginCheck (task : TaskId) (s : System) : System × List Event :=
  match s.controller.modelToCheck s.site.workingDirectory s.editor with
  | .error .alreadyRunning =>
    (s.setTask task .offering, [.offer Rejection.alreadyRunning.message showRunningAction])
  | .error reason =>
    (s.setTask task (.ended (.checked (.rejected reason))), [.warn reason.message])
  | .ok file =>
    let run := s.controller.nextRun
    let (c, events) := s.controller.reserve file
    ((s.setController c).setTask task (.spawning run file),
      events ++ [.spawn run checkerTool file checkerArguments])

/-- Ends a check whose offer has been answered. -/
def answer (task : TaskId) (accepted : Bool) (s : System) : System × List Event :=
  (s.setTask task (.ended (.checked (.rejected .alreadyRunning))),
    if accepted then [.reveal] else [])

/-- Ends a check with an error: the run fails, its process is terminated if it has one, and the
user is told. -/
def failCheck (task : TaskId) (run : RunId) (e : CheckError) (s : System) :
    System × List Event :=
  let (c, events, process) := s.controller.fail run
  let s := (s.setController c).setTask task (.ended (.checked (.failed e.message)))
  let (s, more) := process.elim (s, []) fun p => s.terminate p
  (s, events ++ more ++ [.error e.message])

/-- Takes the process that has been spawned for a run: it is attached and gets its hook, and it is
terminated at once if a stop has been requested meanwhile. Then the display is opened. -/
def attach (task : TaskId) (run : RunId) (file : Path) (pid : Option Nat)
    (termination : Termination) (s : System) : System × List Event :=
  let process := s.processes.length
  let reader := s.site.reader file
  let (c, stopRequested) := s.controller.attach run file process pid
  let s := { s.setController c with
    processes := s.processes ++ [Process.spawned run pid termination] }
  let (s, events) := if stopRequested then s.terminate process else (s, [])
  (s.setTask task (.reading run process reader), events ++ [Event.revealEmpty run])

/-- What a launcher answers. -/
inductive Spawned where
  | process (pid : Option Nat) (termination : Termination)
  | failure (cause : Failure)
deriving DecidableEq, Repr

/-- Goes on with a check when the launcher has answered. -/
def spawned (task : TaskId) (run : RunId) (file : Path) (result : Spawned) (s : System) :
    System × List Event :=
  match result with
  | .process pid termination => s.attach task run file pid termination
  | .failure cause => s.failCheck task run (.spawn checkerTool cause)

/-- Hands the diagnostics of a run whose output has been read to its end to the sink. -/
def applyDiagnostics (task : TaskId) (run : RunId) (process : ProcessId) (output : Output)
    (s : System) : System × List Event :=
  let diagnostics := output.diagnostics
  (s.setTask task (.applying run process diagnostics.total), [.apply run diagnostics])

/-- Ends a check when the sink has applied the diagnostics, or has failed to. -/
def applied (task : TaskId) (run : RunId) (total : Nat) (failure : Option Failure) (s : System) :
    System × List Event :=
  match failure with
  | none => (s.setTask task (.ended (.checked (.completed total))), [])
  | some cause => s.failCheck task run (.diagnostics cause)

/-- What a failure to read is reported within. -/
def readContext : String := "reading TLC output"

/-- Feeds chunks to a reader up to the first failure. -/
def feedChunks (now : Moment) :
    List Output.Chunk → Output.Reader → Output.Reader × List Snapshot × Option String
  | [], r => (r, [], none)
  | .failure cause :: _, r => (r, [], some cause)
  | .bytes content :: rest, r =>
    let (r, first) := r.feed now content
    let (r, others, failure) := feedChunks now rest r
    (r, first ++ others, failure)

/-- Reads what has arrived. At a failure the check fails; at the end of the output the diagnostics
go to the sink. -/
def read (task : TaskId) (run : RunId) (process : ProcessId) (reader : Output.Reader)
    (now : Moment) (s : System) : System × List Event :=
  match s.processes[process]? with
  | none => (s, [])
  | some p =>
    let (reader, delivered, failure) := feedChunks now p.arrived reader
    let updates := delivered.map (Event.update run)
    match failure with
    | some cause =>
      let s := s.modifyProcess process fun p => { p with arrived := [], readable := false }
      let (s, events) := s.failCheck task run
        (.stream (.within readContext (.ofCause cause)))
      (s, updates ++ events)
    | none =>
      if p.writable then
        let s := s.modifyProcess process fun p => { p with arrived := [] }
        (s.setTask task (.reading run process reader), updates)
      else
        let s := s.modifyProcess process fun p => { p with arrived := [], readable := false }
        let (output, last) := reader.finish now
        let (s, events) := s.applyDiagnostics task run process output
        (s, updates ++ last.map (Event.update run) ++ events)

/-! ### Other steps -/

/-- Requests the end of the run in progress. -/
def stop (s : System) : System × List Event × StopOutcome :=
  let (c, events, outcome) := s.controller.stop
  let s := s.setController c
  let s := events.foldl (fun s e =>
    match e with
    | .terminate process => s.modifyProcess process Process.terminate
    | _ => s) s
  (s, events, outcome)

/-- Begins a task. -/
def beginTask (task : TaskId) (request : Request) (s : System) : System × List Event :=
  match request with
  | .check => s.beginCheck task
  | .command .run => s.beginCheck task
  | .command .stop =>
    let (s, events, outcome) := s.stop
    (s.setTask task (.ended (.stopped outcome)), events)
  | .command .display => (s.setTask task (.ended .displayed), [.reveal])
  | .waitIdle => (s.setTask task .waiting, [])

/-- Ends a task that waits, if no run is in progress. -/
def wake (task : TaskId) (s : System) : System × List Event :=
  if s.controller.state = .idle then (s.setTask task (.ended .idle), []) else (s, [])

/-- The hook of a process sees its exit. -/
def observeExit (process : ProcessId) (s : System) : System × List Event :=
  match s.processes[process]? with
  | none => (s, [])
  | some p =>
    if p.hooked && p.exit ≠ .pending then
      let (c, events) := s.controller.complete p.run
      ((s.setController c).modifyProcess process fun p => { p with hooked := false }, events)
    else (s, [])

/-- Drops a task where it is. A run without a process is abandoned; any other run's process is
terminated. -/
def abort (task : TaskId) (s : System) : System × List Event :=
  match s.tasks[task]? with
  | none => (s, [])
  | some (.ended _) => (s, [])
  | some (.spawning run _) =>
    let (c, events) := s.controller.abandon run
    ((s.setController c).setTask task (.ended .cancelled), events)
  | some (.reading _ process _) =>
    let s := s.modifyProcess process fun p => { p with arrived := [], readable := false }
    (s.setTask task (.ended .cancelled)).terminate process
  | some (.applying _ process _) => (s.setTask task (.ended .cancelled)).terminate process
  | some _ => (s.setTask task (.ended .cancelled), [])

/-- Something that happens to a system. -/
inductive Action where
  | openDocument (path : Path)
  | closeDocument
  /-- A task is created. -/
  | request (r : Request)
  | stop
  | display
  /-- A task that was created begins. -/
  | begin (task : TaskId)
  /-- The launcher answers a task. -/
  | spawned (task : TaskId) (result : Spawned)
  /-- The user answers the offer of a task. -/
  | answer (task : TaskId) (accepted : Bool)
  /-- A task reads what has arrived. -/
  | read (task : TaskId) (now : Moment)
  /-- The sink has applied the diagnostics of a task, or has failed to. -/
  | applied (task : TaskId) (failure : Option Failure)
  /-- A task that waits looks whether a run is in progress. -/
  | wake (task : TaskId)
  | abort (task : TaskId)
  /-- Something is written to the output of a process. -/
  | write (process : ProcessId) (chunk : Output.Chunk)
  /-- The output of a process ends. -/
  | endOutput (process : ProcessId)
  /-- The exit of a process is reported. -/
  | exit (process : ProcessId) (exit : ProcessExit)
  /-- The hook of a process sees its exit. -/
  | observeExit (process : ProcessId)
deriving DecidableEq, Repr

/-- One step: the system after an action, and the events in it. An action that cannot happen changes
nothing. -/
def step (s : System) : Action → System × List Event
  | .openDocument path => ({ s with editor := s.editor.open path }, [])
  | .closeDocument => ({ s with editor := s.editor.close }, [])
  | .request r => ({ s with tasks := s.tasks ++ [.created r] }, [])
  | .stop => let (s, events, _) := s.stop; (s, events)
  | .display => (s, [.reveal])
  | .begin task =>
    match s.tasks[task]? with
    | some (.created r) => s.beginTask task r
    | _ => (s, [])
  | .spawned task result =>
    match s.tasks[task]? with
    | some (.spawning run file) => s.spawned task run file result
    | _ => (s, [])
  | .answer task accepted =>
    match s.tasks[task]? with
    | some .offering => s.answer task accepted
    | _ => (s, [])
  | .read task now =>
    match s.tasks[task]? with
    | some (.reading run process reader) => s.read task run process reader now
    | _ => (s, [])
  | .applied task failure =>
    match s.tasks[task]? with
    | some (.applying run _ total) => s.applied task run total failure
    | _ => (s, [])
  | .wake task =>
    match s.tasks[task]? with
    | some .waiting => s.wake task
    | _ => (s, [])
  | .abort task => s.abort task
  | .write process chunk => (s.modifyProcess process (Process.write chunk), [])
  | .endOutput process => (s.modifyProcess process fun p => { p with writable := false }, [])
  | .exit process exit => (s.modifyProcess process (Process.report exit), [])
  | .observeExit process => s.observeExit process

/-- The system after actions in order, and all events in order. -/
def run (s : System) : List Action → System × List Event
  | [] => (s, [])
  | a :: rest =>
    let (s, first) := s.step a
    let (s, others) := run s rest
    (s, first ++ others)

end System

end ModelCheck
