import ModelCheck.Diagnostic.Sink
import ModelCheck.Process.Execution
import ModelCheck.System

/-!
# A host

A host joins the controller to a console, a launcher, a sink and the processes it
has launched. Whatever can go on goes on at once; then time passes for a process
until it pauses or ends, and everything goes on again.
-/

namespace ModelCheck

/-- What a launched process still does. -/
inductive Activity where
  | running (behavior : Behavior)
  /-- The process has ended and others write to its output. -/
  | trailing (effects : List Effect)
  | over
deriving DecidableEq, Repr

/-- A controller with its surroundings. -/
structure Host where
  system : System
  console : Console
  storage : Storage
  environment : Environment
  launcher : Launcher
  /-- Where diagnostics go. -/
  target : String
  /-- The time that the clock shows. -/
  now : Moment
  activities : List Activity

namespace Host

/-- A host that nothing has been asked of. -/
def start (config : Config) (site : Site) (storage : Storage)
    (environment : Environment) (now : Moment) : Host where
  system := .start site
  console := .start .reliable (.select config.console.ascii) config.console.acceptsOffers
  storage := storage
  environment := environment
  launcher := ⟨Config.javaBinary config.java.home, config.java.options, config.tools.jar⟩
  target := config.diagnostics.path
  now := now
  activities := []

/-! ### Acting -/

/-- What the surroundings do at an event. -/
def observe (h : Host) (e : Event) : Host :=
  let onConsole (f : Console → Console) : Host := { h with console := f h.console }
  match e with
  | .spawn _ _ _ _ => h
  | .terminate _ => h
  | .revealEmpty _ => onConsole .revealEmpty
  | .update _ s => onConsole (.update s)
  | .reveal => onConsole .reveal
  | .apply _ c =>
    match Sink.apply h.target c h.storage with
    | .ok storage => { h with storage := storage }
    | .error _ => h
  | .info text => onConsole (.info text)
  | .warn text => onConsole (.warn text)
  | .error text => onConsole (.error text)
  | .offer text action => onConsole (.offer text action)
  | .showStatus item => onConsole (.showStatus item)
  | .hideStatus => onConsole .hideStatus

/-- Performs an action of the system. -/
def act (a : System.Action) (h : Host) : Host :=
  let (system, events) := h.system.step a
  events.foldl observe { h with system := system }

/-- Launches the process of a task. -/
def spawn (task : TaskId) (file : Path) (h : Host) : Host :=
  match h.launcher.launch h.storage.files h.environment h.storage.here checkerTool file
      checkerArguments with
  | .ok behavior =>
    { h with activities := h.activities ++ [Activity.running behavior] }.act
      (.spawned task (.process none .kill))
  | .error failure => h.act (.spawned task (.failure failure))

/-- What a task does next without any time passing. -/
def next? (h : Host) (task : TaskId) : Option (Host → Host) :=
  match h.system.tasks[task]? with
  | some (.created _) => some (act (.begin task))
  | some (.spawning _ file) => some (spawn task file)
  | some .offering => some (act (.answer task h.console.acceptsOffers))
  | some (.reading _ process _) =>
    match h.system.processes[process]? with
    | some p =>
      if !p.arrived.isEmpty || !p.writable then
        some (act (.read task h.now))
      else none
    | none => none
  | some (.applying _ _ _) =>
    some (act (.applied task (Sink.objection? h.target h.storage)))
  | some .waiting => if h.system.controller.state = .idle then some (act (.wake task)) else none
  | _ => none

/-- What the hook of a process does next. -/
def hook? (h : Host) (process : ProcessId) : Option (Host → Host) :=
  (h.system.processes[process]?).bind fun p =>
    if p.hooked && p.exit ≠ .pending then some (act (.observeExit process)) else none

/-- What can go on next: a task, or a hook if no task can. -/
def goOn? (h : Host) : Option (Host → Host) :=
  ((List.range h.system.tasks.length).findSome? h.next?).or
    ((List.range h.system.processes.length).findSome? h.hook?)

/-- Lets things go on, one after the other. -/
def goOn : Nat → Host → Host
  | 0, h => h
  | steps + 1, h =>
    match h.goOn? with
    | none => h
    | some f => goOn steps (f h)

/-- Lets everything go on until time has to pass. A task takes at most four steps without waiting,
and a hook one. -/
def settle (h : Host) : Host :=
  h.goOn (8 * (h.system.tasks.length + h.system.processes.length + 1))

/-! ### Time -/

/-- What a process does before time passes. -/
def perform (process : ProcessId) (e : Effect) (h : Host) : Host :=
  match e with
  | .write content => h.act (.write process (.bytes content))
  | .closeOutput => h.act (.endOutput process)
  | .change c => { h with storage := { h.storage with files := c.apply h.storage.files } }
  | .pause => h

/-- Whether time passes. -/
def isPause : Effect → Bool
  | .pause => true
  | _ => false

/-- Carries out effects up to a pause: the host after them, and the effects behind the pause, if
there is one. -/
def play (process : ProcessId) : List Effect → Host → Host × Option (List Effect)
  | [], h => (h, none)
  | .pause :: rest, h => (h, some rest)
  | e :: rest, h => play process rest (h.perform process e)

/-- Whether a process has been killed. -/
def isKilled (h : Host) (process : ProcessId) : Bool :=
  (h.system.processes[process]?).elim true fun p =>
    match p.exit with
    | .reported exit => exit.terminated
    | .pending => false

/-- Sets what a process still does. -/
def setActivity (process : ProcessId) (a : Activity) (h : Host) : Host :=
  { h with activities := h.activities.set process a }

/-- Lets a process go on until it pauses or ends. -/
def advanceProcess (process : ProcessId) (a : Activity) (h : Host) : Host :=
  match a with
  | .over => h
  | .trailing effects =>
    match play process effects h with
    | (h, some rest) => h.setActivity process (.trailing rest)
    | (h, none) => (h.act (.endOutput process)).setActivity process .over
  | .running b =>
    match play process b.effects h with
    | (h, some rest) => h.setActivity process (.running { b with effects := rest })
    | (h, none) =>
      let h := h.act (.exit process (.exited b.ending.code))
      if b.afterwards.isEmpty then (h.act (.endOutput process)).setActivity process .over
      else h.setActivity process (.trailing b.afterwards)

/-- The first process that still does something. -/
def active? (h : Host) : Option (ProcessId × Activity) :=
  (h.activities.zipIdx.find? fun (a, process) => a ≠ .over && !h.isKilled process).map
    fun (a, process) => (process, a)

/-- Lets time pass. There must be a process that does something. -/
def advance? (h : Host) : Option Host :=
  h.active?.map fun (process, a) => (h.advanceProcess process a).settle

/-- An upper bound for how often processes can go on. -/
def remaining (h : Host) : Nat :=
  h.activities.foldl (fun n a => n + match a with
    | .running b => b.effects.length + b.afterwards.length + 3
    | .trailing effects => effects.length + 2
    | .over => 0) 0

/-- Lets time pass until something holds, or as long as there is something to do. -/
def advanceUntil (holds : Host → Bool) : Nat → Host → Host
  | 0, h => h
  | steps + 1, h =>
    if holds h then h
    else
      match h.advance? with
      | none => h
      | some h => advanceUntil holds steps h

/-- Lets everything go on, and time pass until something holds. -/
def waitUntil (holds : Host → Bool) (h : Host) : Host :=
  let h := h.settle
  h.advanceUntil holds (h.remaining + 1)

/-! ### What has come of it -/

/-- The result of a task that has ended. -/
def result? (h : Host) (task : TaskId) : Option TaskResult :=
  match h.system.tasks[task]? with
  | some (.ended result) => some result
  | _ => none

/-- Whether a task has ended. -/
def hasEnded (task : TaskId) (h : Host) : Bool := (h.result? task).isSome

/-- Whether no run is in progress. -/
def isIdle (h : Host) : Bool := h.system.controller.state = .idle

/-- Everything that the console has printed. -/
def printed (h : Host) : String := h.console.writer.written

/-! ### Requests -/

/-- Creates a task. -/
def request (r : Request) (h : Host) : TaskId × Host := (h.system.tasks.length, h.act (.request r))

/-- Opens a document. -/
def openDocument (path : Path) (h : Host) : Host := h.act (.openDocument path)

/-- Requests the end of the run in progress. -/
def stop (h : Host) : StopOutcome × Host :=
  let (_, _, outcome) := h.system.stop
  (outcome, h.act .stop)

/-- Prints lines besides the messages of the controller. -/
def print (lines : List String) (h : Host) : Host := { h with console := h.console.print lines }

end Host

end ModelCheck
