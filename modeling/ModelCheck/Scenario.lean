import ModelCheck.System

/-!
# Scenarios

A scenario plays the surroundings of a system by a script: it decides what the
launcher, the sink and the user answer and what the processes do, and it can hold
answers back at a gate. After each step of the script all tasks and hooks that can
go on do so, one after the other in the order in which they became able to, until
nothing can. A task goes on until it has to wait.
-/

namespace ModelCheck

/-- Gates are numbered in the order in which they are set. -/
abbrev GateId := Nat

/-- How the surroundings answer. -/
structure Surroundings where
  /-- The number of a process that is spawned. -/
  pid : Option Nat
  termination : Termination
  spawnFailure : Option Failure
  sinkFailure : Option Failure
  acceptsOffers : Bool
deriving DecidableEq, Repr

namespace Surroundings

/-- Everything works, requests for termination kill, and offers are accepted. -/
def cooperative : Surroundings := ⟨some 4242, .kill, none, none, true⟩

/-- The launcher's answer. -/
def spawned (s : Surroundings) : System.Spawned :=
  s.spawnFailure.elim (.process s.pid s.termination) .failure

end Surroundings

/-- What may go on by itself: a task, or the hook of a process. -/
inductive Job where
  | task (id : TaskId)
  | hook (process : ProcessId)
deriving DecidableEq, Repr

/-- A system in scripted surroundings. -/
structure Scenario where
  system : System
  surroundings : Surroundings
  /-- The gate at which spawning waits from now on. -/
  spawnGate : Option GateId
  /-- The gate at which answers to offers wait from now on. -/
  offerGate : Option GateId
  nextGate : GateId
  /-- The gates that have not been opened. -/
  closed : List GateId
  /-- The tasks that came to a gate. -/
  held : List (TaskId × GateId)
  queue : List Job

namespace Scenario

/-- A scenario in which nothing has happened. -/
def start (site : Site) (surroundings : Surroundings) : Scenario where
  system := .start site
  surroundings := surroundings
  spawnGate := none
  offerGate := none
  nextGate := 0
  closed := []
  held := []
  queue := []

/-- The clock does not run in a scenario. -/
def now : Moment := ⟨0, 0, 0⟩

/-- Whether a task is held at a gate that is closed. -/
def isHeld (s : Scenario) (task : TaskId) : Bool :=
  s.held.any fun h => h.1 = task && s.closed.contains h.2

/-- Whether a process has something for its reader. -/
def hasOutput (s : Scenario) (process : ProcessId) : Bool :=
  (s.system.processes[process]?).elim false fun p => !p.arrived.isEmpty || !p.writable

/-- What a task does next, unless it has to wait. -/
def next? (s : Scenario) (task : TaskId) : Option System.Action :=
  match s.system.tasks[task]? with
  | some (.created _) => some (.begin task)
  | some (.spawning _ _) =>
    if s.isHeld task then none else some (.spawned task s.surroundings.spawned)
  | some .offering =>
    if s.isHeld task then none else some (.answer task s.surroundings.acceptsOffers)
  | some (.reading _ process _) =>
    if s.hasOutput process then some (.read task now) else none
  | some (.applying _ _ _) => some (.applied task s.surroundings.sinkFailure)
  | some .waiting => if s.system.controller.state = .idle then some (.wake task) else none
  | some (.ended _) => none
  | none => none

/-- Notes the gate that a task has come to. -/
def holdAtGate (task : TaskId) (s : Scenario) : Scenario :=
  let gate :=
    match s.system.tasks[task]? with
    | some (.spawning _ _) => s.spawnGate
    | some .offering => s.offerGate
    | _ => none
  gate.elim s fun g => { s with held := (task, g) :: s.held }

/-- Performs an action of the system. -/
def act (a : System.Action) (s : Scenario) : Scenario × List Event :=
  let (system, events) := s.system.step a
  let s := { s with system := system }
  match a with
  | .begin task => (s.holdAtGate task, events)
  | _ => (s, events)

/-- Lets a task go on until it has to wait. A task takes at most four steps: it begins, its process
is spawned, it reads what is there, and its diagnostics are applied. -/
def goOn (task : TaskId) : Nat → Scenario → Scenario × List Event
  | 0, s => (s, [])
  | steps + 1, s =>
    match s.next? task with
    | none => (s, [])
    | some a =>
      let (s, first) := s.act a
      let (s, others) := goOn task steps s
      (s, first ++ others)

/-- The most steps that a task takes without waiting. -/
def stepLimit : Nat := 4

/-- Whether a task reads output. -/
def isReading (s : Scenario) (task : TaskId) : Bool :=
  match s.system.tasks[task]? with
  | some (.reading _ _ _) => true
  | _ => false

/-- What can go on now: readers of output, then hooks, then other tasks, each by number. -/
def ready (s : Scenario) : List Job :=
  let tasks := (List.range s.system.tasks.length).filter fun t => (s.next? t).isSome
  let hooks := (List.range s.system.processes.length).filter fun p =>
    (s.system.processes[p]?).elim false fun q => q.hooked && q.exit ≠ .pending
  (tasks.filter s.isReading).map Job.task ++ hooks.map Job.hook
    ++ (tasks.filter (!s.isReading ·)).map Job.task

/-- Puts at the end of the queue what has become able to go on. -/
def enqueue (s : Scenario) : Scenario :=
  { s with queue := s.queue ++ s.ready.filter fun j => !s.queue.contains j }

/-- Carries out the queue. -/
def drain : Nat → Scenario → Scenario × List Event
  | 0, s => (s, [])
  | fuel + 1, s =>
    match s.queue with
    | [] => (s, [])
    | job :: rest =>
      let s := { s with queue := rest }
      let (s, first) :=
        match job with
        | .task task => s.goOn task stepLimit
        | .hook process => s.act (.observeExit process)
      let (s, others) := drain fuel s.enqueue
      (s, first ++ others)

/-- More jobs than can ever be carried out: a task is queued at most once for each of its four
stages, and a hook once. -/
def jobLimit (s : Scenario) : Nat := 8 * (s.system.tasks.length + s.system.processes.length + 1)

/-- Lets everything go on until nothing can. -/
def settle (s : Scenario) : Scenario × List Event :=
  let s := s.enqueue
  s.drain s.jobLimit

/-- A step of a script. -/
inductive Step where
  | openDocument (path : Path)
  | closeDocument
  | surround (surroundings : Surroundings)
  | closeSpawnGate
  | openSpawnGate
  | closeOfferGate
  | openOfferGate
  | request (r : Request) (times : Nat)
  | stop
  | display
  | abort (task : TaskId)
  | write (process : ProcessId) (chunk : Output.Chunk)
  | endOutput (process : ProcessId)
  | exit (process : ProcessId) (exit : ProcessExit)

/-- What a step itself comes to. -/
inductive Result where
  | none
  | stopped (outcome : StopOutcome)
  /-- Whether what was written can be read, or the exit is reported now. -/
  | accepted (yes : Bool)
  /-- The step names a process that does not exist. -/
  | skipped
deriving DecidableEq, Repr

/-- Sets a new gate. Tasks at an earlier gate stay there. -/
def newGate (s : Scenario) : GateId × Scenario :=
  (s.nextGate, { s with nextGate := s.nextGate + 1, closed := s.nextGate :: s.closed })

/-- Opens a gate. -/
def openGate (gate : Option GateId) (s : Scenario) : Scenario :=
  gate.elim s fun g => { s with closed := s.closed.filter (· ≠ g) }

/-- Creates tasks. -/
def create (r : Request) : Nat → Scenario → Scenario
  | 0, s => s
  | times + 1, s => create r times (s.act (.request r)).1

/-- Performs an action on a process, which has a result of its own. -/
def onProcess (process : ProcessId) (a : System.Action) (result : Process → Result)
    (s : Scenario) : Scenario × List Event × Result :=
  match s.system.processes[process]? with
  | none => (s, [], .skipped)
  | some p =>
    let (s, events) := s.act a
    (s, events, result p)

/-- Performs a step before anything else goes on. -/
def begin (step : Step) (s : Scenario) : Scenario × List Event × Result :=
  let plain := fun (a : System.Action) =>
    let (s, events) := s.act a
    (s, events, Result.none)
  match step with
  | .openDocument path => plain (.openDocument path)
  | .closeDocument => plain .closeDocument
  | .surround surroundings => ({ s with surroundings := surroundings }, [], .none)
  | .closeSpawnGate =>
    let (gate, s) := s.newGate
    ({ s with spawnGate := some gate }, [], .none)
  | .openSpawnGate => ({ s.openGate s.spawnGate with spawnGate := Option.none }, [], .none)
  | .closeOfferGate =>
    let (gate, s) := s.newGate
    ({ s with offerGate := some gate }, [], .none)
  | .openOfferGate => ({ s.openGate s.offerGate with offerGate := Option.none }, [], .none)
  | .request r times => (s.create r times, [], .none)
  | .stop =>
    let (_, _, outcome) := s.system.stop
    let (s, events) := s.act .stop
    (s, events, .stopped outcome)
  | .display => plain .display
  | .abort task => plain (.abort task)
  | .write process chunk =>
    s.onProcess process (.write process chunk) fun p => .accepted (p.writable && p.readable)
  | .endOutput process => s.onProcess process (.endOutput process) fun _ => .none
  | .exit process exit =>
    s.onProcess process (.exit process exit) fun p => .accepted (p.exit = .pending)

/-- The tasks that have ended, with what they ended with. -/
def ended (s : Scenario) : List (TaskId × TaskResult) :=
  s.system.tasks.zipIdx.filterMap fun (stage, task) =>
    match stage with
    | .ended result => some (task, result)
    | _ => none

/-- What happens in one step of a script. -/
structure Account where
  result : Result
  events : List Event
  ended : List (TaskId × TaskResult)

/-- Performs a step and lets everything go on. -/
def perform (step : Step) (s : Scenario) : Scenario × Account :=
  let before := s.ended
  let (s, first, result) := s.begin step
  let (s, others) := s.settle
  (s, ⟨result, first ++ others, s.ended.filter fun e => !before.contains e⟩)

end Scenario

end ModelCheck
