import ModelCheck.System

/-!
# What one step can do

Every step of a system is one of a fixed list of transitions. They are read off the step function
once, with the system that each leads to and the events in it; later proofs look only at the list.
-/

namespace ModelCheck

/-- Whether a request asks for a check. -/
def Request.Checks (r : Request) : Prop := r = .check ∨ r = .command .run

namespace System

/-- Putting a task at a stage leaves the controller. -/
@[simp] theorem setTask_controller (task : TaskId) (stage : Stage) (s : System) :
    (s.setTask task stage).controller = s.controller := rfl

/-- Putting a task at a stage sets it in its place. -/
@[simp] theorem setTask_tasks (task : TaskId) (stage : Stage) (s : System) :
    (s.setTask task stage).tasks = s.tasks.set task stage := rfl

/-- Putting a task at a stage leaves the processes. -/
@[simp] theorem setTask_processes (task : TaskId) (stage : Stage) (s : System) :
    (s.setTask task stage).processes = s.processes := rfl

/-- A task that has been put at a stage is at it. -/
theorem task_setTask {s : System} {task : TaskId} {old : Stage} (h : s.tasks[task]? = some old)
    (stage : Stage) : (s.setTask task stage).tasks[task]? = some stage :=
  List.getElem?_set_self (List.getElem?_eq_some_iff.mp h).1

/-- Changing a process leaves the controller. -/
@[simp] theorem modifyProcess_controller (process : ProcessId) (f : Process → Process)
    (s : System) : (s.modifyProcess process f).controller = s.controller := rfl

/-- Changing a process leaves the tasks. -/
@[simp] theorem modifyProcess_tasks (process : ProcessId) (f : Process → Process) (s : System) :
    (s.modifyProcess process f).tasks = s.tasks := rfl

/-- Changing a process changes it in its place. -/
@[simp] theorem modifyProcess_processes (process : ProcessId) (f : Process → Process)
    (s : System) : (s.modifyProcess process f).processes = s.processes.modify process f := rfl

/-- The controller is the one that has been set. -/
@[simp] theorem setController_controller (c : Controller) (s : System) :
    (s.setController c).controller = c := rfl

/-- Setting the controller leaves the tasks. -/
@[simp] theorem setController_tasks (c : Controller) (s : System) :
    (s.setController c).tasks = s.tasks := rfl

/-- Setting the controller leaves the processes. -/
@[simp] theorem setController_processes (c : Controller) (s : System) :
    (s.setController c).processes = s.processes := rfl

/-! ### The operations that terminate -/

/-- Requests the termination of the processes in a list of at most one. -/
def terminateAll (process : Option ProcessId) (s : System) : System :=
  process.elim s fun p => s.modifyProcess p Process.terminate

/-- Failing a check, with the controller's part and the termination side by side. -/
theorem failCheck_eq (task : TaskId) (run : RunId) (e : CheckError) (s : System) :
    s.failCheck task run e =
      (((s.setController (s.controller.fail run).1).setTask task
          (.ended (.checked (.failed e.message)))).terminateAll (s.controller.fail run).2.2,
        (s.controller.fail run).2.1 ++ (s.controller.fail run).2.2.toList.map Event.terminate ++
          [.error e.message]) := by
  unfold failCheck
  cases h : (s.controller.fail run).2.2 <;> simp [terminateAll, terminate, h]

/-- Terminations leave the controller. -/
@[simp] theorem terminateAll_controller (process : Option ProcessId) (s : System) :
    (s.terminateAll process).controller = s.controller := by cases process <;> rfl

/-- Terminations leave the tasks. -/
@[simp] theorem terminateAll_tasks (process : Option ProcessId) (s : System) :
    (s.terminateAll process).tasks = s.tasks := by cases process <;> rfl

/-- A check that fails leaves the controller as the failure of its run does. -/
@[simp] theorem failCheck_controller (task : TaskId) (run : RunId) (e : CheckError) (s : System) :
    (s.failCheck task run e).1.controller = (s.controller.fail run).1 := by
  rw [failCheck_eq, terminateAll_controller, setTask_controller, setController_controller]

/-- A check that fails ends its task with the error. -/
@[simp] theorem failCheck_tasks (task : TaskId) (run : RunId) (e : CheckError) (s : System) :
    (s.failCheck task run e).1.tasks =
      s.tasks.set task (.ended (.checked (.failed e.message))) := by
  rw [failCheck_eq, terminateAll_tasks, setTask_tasks, setController_tasks]

/-- A check that fails ends with the error that the user is told. -/
theorem failCheck_ended {s : System} {task : TaskId} {old : Stage}
    (h : s.tasks[task]? = some old) (run : RunId) (e : CheckError) :
    (s.failCheck task run e).1.tasks[task]? = some (.ended (.checked (.failed e.message))) := by
  rw [failCheck_tasks]
  exact task_setTask h _

/-- A stop, with the controller's part and the termination side by side. -/
theorem stop_eq (s : System) :
    s.stop = ((s.setController s.controller.stop.1).terminateAll
        (s.controller.slot.bind (·.process)), s.controller.stop.2.1, s.controller.stop.2.2) := by
  unfold stop Controller.stop
  cases s.controller.slot with
  | none => rfl
  | some active => cases hp : active.process <;> simp [terminateAll, hp]

/-- A stop leaves the tasks. -/
@[simp] theorem stop_tasks (s : System) : s.stop.1.tasks = s.tasks := by
  rw [stop_eq, terminateAll_tasks, setController_tasks]

/-- A process that has just been spawned, after the termination that was asked for meanwhile. -/
def newProcess (run : RunId) (pid : Option Nat) (termination : Termination)
    (stopRequested : Bool) : Process :=
  if stopRequested then (Process.spawned run pid termination).terminate
  else Process.spawned run pid termination

/-- Attaching a process appends it, terminated if a stop is pending, and opens the display last. -/
theorem attach_eq (task : TaskId) (run : RunId) (file : Path) (pid : Option Nat)
    (termination : Termination) (s : System) :
    s.attach task run file pid termination =
      let attached := s.controller.attach run file s.processes.length pid
      (({ s.setController attached.1 with
            processes := s.processes ++ [newProcess run pid termination attached.2] }).setTask task
          (.reading run s.processes.length (s.site.reader file)),
        (if attached.2 then [.terminate s.processes.length] else []) ++ [.revealEmpty run]) := by
  unfold attach newProcess
  cases h : (s.controller.attach run file s.processes.length pid).2 <;>
    simp [terminate, setController, setTask, modifyProcess, h, List.modify_eq_take_drop]

/-- Attaching a process has its task read from that process. -/
@[simp] theorem attach_tasks (task : TaskId) (run : RunId) (file : Path) (pid : Option Nat)
    (termination : Termination) (s : System) :
    (s.attach task run file pid termination).1.tasks =
      s.tasks.set task (.reading run s.processes.length (s.site.reader file)) := by
  rw [attach_eq]
  rfl

/-! ### Steps that read -/

section Read

variable {s : System} {task : TaskId} {run : RunId} {process : ProcessId}
  {reader reader' : Output.Reader} {p : Process} {now : Moment} {others : List Snapshot}

/-- A task that reads on shows what has been delivered. -/
theorem step_read_of_open (ht : s.tasks[task]? = some (.reading run process reader))
    (hget : s.processes[process]? = some p)
    (hfeed : feedChunks now p.arrived reader = (reader', others, none))
    (hopen : p.writable = true) :
    s.step (.read task now) =
      ((s.modifyProcess process fun p => { p with arrived := [] }).setTask task
        (.reading run process reader'), others.map (Event.update run)) := by
  simp [step, ht, read, hget, hfeed, hopen]

/-- At the end of the output the task hands on the diagnostics. -/
theorem step_read_of_ended (ht : s.tasks[task]? = some (.reading run process reader))
    (hget : s.processes[process]? = some p)
    (hfeed : feedChunks now p.arrived reader = (reader', others, none))
    (hended : p.writable = false) :
    s.step (.read task now) =
      ((s.modifyProcess process fun p => { p with arrived := [], readable := false }).setTask task
          (.applying run process (reader'.finish now).1.diagnostics.total),
        others.map (Event.update run) ++ (reader'.finish now).2.map (Event.update run) ++
          [.apply run (reader'.finish now).1.diagnostics]) := by
  simp [step, ht, read, hget, hfeed, hended, applyDiagnostics]

/-- The failure of a run whose output cannot be read. -/
def readFailure (cause : String) : CheckError := .stream (.within readContext (.ofCause cause))

/-- At a failure to read the check fails, after what has been delivered before it. -/
theorem step_read_of_failure {cause : String}
    (ht : s.tasks[task]? = some (.reading run process reader))
    (hget : s.processes[process]? = some p)
    (hfeed : feedChunks now p.arrived reader = (reader', others, some cause)) :
    s.step (.read task now) =
      (((s.modifyProcess process fun p => { p with arrived := [], readable := false }).failCheck
          task run (readFailure cause)).1,
        others.map (Event.update run) ++
          ((s.modifyProcess process fun p => { p with arrived := [], readable := false }).failCheck
            task run (readFailure cause)).2) := by
  simp [step, ht, read, hget, hfeed, readFailure]

end Read

/-! ### The transitions -/

/-- The transitions of a system: what an action leads to, and the events in it. -/
inductive Transition (s : System) : Action → System → List Event → Prop
  /-- The action cannot happen, or finds nothing to do. -/
  | refused {a : Action} : Transition s a s []
  | opened (path : Path) :
      Transition s (.openDocument path) { s with editor := s.editor.open path } []
  | closed : Transition s .closeDocument { s with editor := s.editor.close } []
  | requested (r : Request) :
      Transition s (.request r) { s with tasks := s.tasks ++ [.created r] } []
  | displayed : Transition s .display s [.reveal]
  | stopped : Transition s .stop s.stop.1 s.stop.2.1
  /-- A task that was asked to display does so. -/
  | taskDisplayed {task : TaskId} (h : s.tasks[task]? = some (.created (.command .display))) :
      Transition s (.begin task) (s.setTask task (.ended .displayed)) [.reveal]
  /-- A task that was asked to stop does so. -/
  | taskStopped {task : TaskId} (h : s.tasks[task]? = some (.created (.command .stop))) :
      Transition s (.begin task) (s.stop.1.setTask task (.ended (.stopped s.stop.2.2))) s.stop.2.1
  | waited {task : TaskId} (h : s.tasks[task]? = some (.created .waitIdle)) :
      Transition s (.begin task) (s.setTask task .waiting) []
  | woke {task : TaskId} (h : s.tasks[task]? = some .waiting) (hidle : s.controller.state = .idle) :
      Transition s (.wake task) (s.setTask task (.ended .idle)) []
  /-- A check finds another run in the way. -/
  | offered {task : TaskId} {r : Request} (h : s.tasks[task]? = some (.created r)) (hr : r.Checks)
      (hm : s.controller.modelToCheck s.site.workingDirectory s.editor = .error .alreadyRunning) :
      Transition s (.begin task) (s.setTask task .offering)
        [.offer Rejection.alreadyRunning.message showRunningAction]
  | answered {task : TaskId} (h : s.tasks[task]? = some .offering) (accepted : Bool) :
      Transition s (.answer task accepted)
        (s.setTask task (.ended (.checked (.rejected .alreadyRunning))))
        (if accepted then [.reveal] else [])
  /-- A check finds no document that it can check. -/
  | rejected {task : TaskId} {r : Request} {reason : Rejection}
      (h : s.tasks[task]? = some (.created r)) (hr : r.Checks)
      (hm : s.controller.modelToCheck s.site.workingDirectory s.editor = .error reason)
      (hreason : reason ≠ .alreadyRunning) :
      Transition s (.begin task) (s.setTask task (.ended (.checked (.rejected reason))))
        [.warn reason.message]
  /-- A run is admitted and asks for its process. -/
  | reserved {task : TaskId} {r : Request} {file : Path}
      (h : s.tasks[task]? = some (.created r)) (hr : r.Checks)
      (hm : s.controller.modelToCheck s.site.workingDirectory s.editor = .ok file) :
      Transition s (.begin task)
        ((s.setController (s.controller.reserve file).1).setTask task
          (.spawning s.controller.nextRun file))
        ((s.controller.reserve file).2 ++
          [.spawn s.controller.nextRun checkerTool file checkerArguments])
  | attached {task : TaskId} {run : RunId} {file : Path}
      (h : s.tasks[task]? = some (.spawning run file)) (pid : Option Nat)
      (termination : Termination) :
      Transition s (.spawned task (.process pid termination))
        (s.attach task run file pid termination).1 (s.attach task run file pid termination).2
  | spawnFailed {task : TaskId} {run : RunId} {file : Path}
      (h : s.tasks[task]? = some (.spawning run file)) (cause : Failure) :
      Transition s (.spawned task (.failure cause))
        (s.failCheck task run (.spawn checkerTool cause)).1
        (s.failCheck task run (.spawn checkerTool cause)).2
  /-- A task has read what was there, and more may come. -/
  | readOn {task : TaskId} {run : RunId} {process : ProcessId} {reader reader' : Output.Reader}
      {p : Process} {now : Moment} {delivered : List Snapshot}
      (h : s.tasks[task]? = some (.reading run process reader))
      (hp : s.processes[process]? = some p)
      (hfeed : feedChunks now p.arrived reader = (reader', delivered, none))
      (hopen : p.writable = true) :
      Transition s (.read task now)
        ((s.modifyProcess process fun p => { p with arrived := [] }).setTask task
          (.reading run process reader'))
        (delivered.map (Event.update run))
  /-- A task has read the output to its end, and hands the diagnostics on. -/
  | readEnd {task : TaskId} {run : RunId} {process : ProcessId} {reader reader' : Output.Reader}
      {p : Process} {now : Moment} {delivered : List Snapshot}
      (h : s.tasks[task]? = some (.reading run process reader))
      (hp : s.processes[process]? = some p)
      (hfeed : feedChunks now p.arrived reader = (reader', delivered, none))
      (hended : p.writable = false) :
      Transition s (.read task now)
        ((s.modifyProcess process fun p => { p with arrived := [], readable := false }).setTask task
          (.applying run process (reader'.finish now).1.diagnostics.total))
        (delivered.map (Event.update run) ++ (reader'.finish now).2.map (Event.update run) ++
          [.apply run (reader'.finish now).1.diagnostics])
  | readFailed {task : TaskId} {run : RunId} {process : ProcessId}
      {reader reader' : Output.Reader} {p : Process} {now : Moment} {delivered : List Snapshot}
      {cause : String} (h : s.tasks[task]? = some (.reading run process reader))
      (hp : s.processes[process]? = some p)
      (hfeed : feedChunks now p.arrived reader = (reader', delivered, some cause)) :
      Transition s (.read task now)
        ((s.modifyProcess process fun p => { p with arrived := [], readable := false }).failCheck
          task run (.stream (.within readContext (.ofCause cause)))).1
        (delivered.map (Event.update run) ++
          ((s.modifyProcess process fun p => { p with arrived := [], readable := false }).failCheck
            task run (.stream (.within readContext (.ofCause cause)))).2)
  | applied {task : TaskId} {run : RunId} {process : ProcessId} {total : Nat}
      (h : s.tasks[task]? = some (.applying run process total)) :
      Transition s (.applied task none) (s.setTask task (.ended (.checked (.completed total)))) []
  | applyFailed {task : TaskId} {run : RunId} {process : ProcessId} {total : Nat}
      (h : s.tasks[task]? = some (.applying run process total)) (cause : Failure) :
      Transition s (.applied task (some cause)) (s.failCheck task run (.diagnostics cause)).1
        (s.failCheck task run (.diagnostics cause)).2
  /-- A task without a run is dropped. -/
  | dropped {task : TaskId} {stage : Stage} (h : s.tasks[task]? = some stage)
      (hstage : stage = .offering ∨ stage = .waiting ∨ ∃ r, stage = .created r) :
      Transition s (.abort task) (s.setTask task (.ended .cancelled)) []
  /-- A task is dropped while its process is being spawned. -/
  | abandoned {task : TaskId} {run : RunId} {file : Path}
      (h : s.tasks[task]? = some (.spawning run file)) :
      Transition s (.abort task)
        ((s.setController (s.controller.abandon run).1).setTask task (.ended .cancelled))
        (s.controller.abandon run).2
  /-- A task is dropped while it reads the output of its process. -/
  | readingDropped {task : TaskId} {run : RunId} {process : ProcessId} {reader : Output.Reader}
      (h : s.tasks[task]? = some (.reading run process reader)) :
      Transition s (.abort task)
        (((s.modifyProcess process fun p => { p with arrived := [], readable := false }).setTask
          task (.ended .cancelled)).modifyProcess process Process.terminate)
        [.terminate process]
  /-- A task is dropped while its diagnostics are applied. -/
  | applyingDropped {task : TaskId} {run : RunId} {process : ProcessId} {total : Nat}
      (h : s.tasks[task]? = some (.applying run process total)) :
      Transition s (.abort task)
        ((s.setTask task (.ended .cancelled)).modifyProcess process Process.terminate)
        [.terminate process]
  | wrote (process : ProcessId) (chunk : Output.Chunk) :
      Transition s (.write process chunk) (s.modifyProcess process (Process.write chunk)) []
  | outputEnded (process : ProcessId) :
      Transition s (.endOutput process)
        (s.modifyProcess process fun p => { p with writable := false }) []
  | exited (process : ProcessId) (exit : ProcessExit) :
      Transition s (.exit process exit) (s.modifyProcess process (Process.report exit)) []
  /-- The hook of a process sees its exit and lets go of its run. -/
  | observed {process : ProcessId} {p : Process} (hp : s.processes[process]? = some p)
      (hhooked : p.hooked = true) (hexit : p.exit ≠ .pending) :
      Transition s (.observeExit process)
        ((s.setController (s.controller.complete p.run).1).modifyProcess process
          fun p => { p with hooked := false })
        (s.controller.complete p.run).2

/-- Beginning a check reserves its run, or makes an offer, or rejects the request. -/
theorem transition_beginCheck {s : System} {task : TaskId} {r : Request}
    (h : s.tasks[task]? = some (.created r)) (hr : r.Checks) :
    Transition s (.begin task) (s.beginCheck task).1 (s.beginCheck task).2 := by
  unfold beginCheck
  cases hm : s.controller.modelToCheck s.site.workingDirectory s.editor with
  | ok file => exact .reserved h hr hm
  | error reason =>
    cases reason with
    | alreadyRunning => exact .offered h hr hm
    | noActiveEditor => exact .rejected h hr hm (by decide)
    | notTlaFile => exact .rejected h hr hm (by decide)

/-- Reading goes on, or comes to the end of the output, or fails. -/
theorem transition_read {s : System} {task : TaskId} {run : RunId} {process : ProcessId}
    {reader : Output.Reader} (now : Moment)
    (h : s.tasks[task]? = some (.reading run process reader)) :
    Transition s (.read task now) (s.read task run process reader now).1
      (s.read task run process reader now).2 := by
  unfold read
  cases hp : s.processes[process]? with
  | none => exact .refused
  | some p =>
    rcases hfeed : feedChunks now p.arrived reader with ⟨reader', delivered, failure⟩
    cases failure with
    | some cause => simpa [hfeed] using Transition.readFailed h hp hfeed
    | none =>
      cases hw : p.writable with
      | true => simpa [hfeed, hw] using Transition.readOn h hp hfeed hw
      | false => simpa [hfeed, hw, applyDiagnostics] using Transition.readEnd h hp hfeed hw

/-- Dropping a task ends it, by what its stage calls for. -/
theorem transition_abort (s : System) (task : TaskId) :
    Transition s (.abort task) (s.abort task).1 (s.abort task).2 := by
  unfold abort
  cases h : s.tasks[task]? with
  | none => exact .refused
  | some stage =>
    cases stage with
    | created r => exact .dropped h (.inr (.inr ⟨r, rfl⟩))
    | offering => exact .dropped h (.inl rfl)
    | waiting => exact .dropped h (.inr (.inl rfl))
    | ended result => exact .refused
    | spawning run file => exact .abandoned h
    | reading run process reader => exact .readingDropped h
    | applying run process total => exact .applyingDropped h

/-- Every step is a transition of the list. -/
theorem transition_step (s : System) (a : Action) :
    Transition s a (s.step a).1 (s.step a).2 := by
  cases a with
  | openDocument path => exact .opened path
  | closeDocument => exact .closed
  | request r => exact .requested r
  | stop => exact .stopped
  | display => exact .displayed
  | begin task =>
    simp only [step]
    split
    · next r h =>
      cases r with
      | check => exact transition_beginCheck h (.inl rfl)
      | waitIdle => exact .waited h
      | command c =>
        cases c with
        | run => exact transition_beginCheck h (.inr rfl)
        | stop => exact .taskStopped h
        | display => exact .taskDisplayed h
    · exact .refused
  | spawned task result =>
    simp only [step]
    split
    · next run file h =>
      cases result with
      | process pid termination => exact .attached h pid termination
      | failure cause => exact .spawnFailed h cause
    · exact .refused
  | answer task accepted =>
    simp only [step]
    split
    · next h => exact .answered h accepted
    · exact .refused
  | read task now =>
    simp only [step]
    split
    · next run process reader h => exact transition_read now h
    · exact .refused
  | applied task failure =>
    simp only [step]
    split
    · next run process total h =>
      cases failure with
      | none => exact .applied h
      | some cause => exact .applyFailed h cause
    · exact .refused
  | wake task =>
    simp only [step]
    split
    · next h =>
      unfold wake
      split
      · next hidle => exact .woke h hidle
      · exact .refused
    · exact .refused
  | abort task => exact transition_abort s task
  | write process chunk => exact .wrote process chunk
  | endOutput process => exact .outputEnded process
  | exit process exit => exact .exited process exit
  | observeExit process =>
    simp only [step, observeExit]
    cases hp : s.processes[process]? with
    | none => exact .refused
    | some p =>
      by_cases hseen : p.hooked = true ∧ p.exit ≠ .pending
      · simpa [hseen] using Transition.observed hp hseen.1 hseen.2
      · have hnot : ¬ (p.hooked && decide (p.exit ≠ .pending)) = true := by simpa using hseen
        simp only [if_neg hnot]
        exact .refused

end System

end ModelCheck
