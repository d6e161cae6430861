import ModelCheck.Process.Exit

/-!
# Supervising a process

A supervisor owns a child process. Requests to terminate it come through a queue,
so whoever asks never waits. While it waits for the child, the supervisor
repeatedly does one of two things: it takes a request, and kills the child at the
first one; or it observes that the child has ended. When nobody can ask any more,
it only waits. After the end it lets the error output run dry, reports the end and
stops; requests that come in between are left in the queue.
-/

namespace ModelCheck

/-- How far a supervisor is. -/
inductive Supervisor.Stage where
  /-- It waits for the child and takes requests. -/
  | waiting
  /-- The child has ended, with this code if it could be observed. The end is not reported yet. -/
  | draining (code : Option Int)
  /-- The end is reported. -/
  | reported
  /-- There is no supervisor any more. -/
  | stopped
deriving DecidableEq, Repr

/-- The state of a supervisor. -/
structure Supervisor where
  /-- How the child ended, once it has. -/
  ended : Option WaitStatus
  /-- Requests not taken yet. -/
  queue : Nat
  /-- Whether somebody can still make requests. -/
  controlled : Bool
  /-- Whether the supervisor still listens for requests. -/
  listening : Bool
  /-- Whether a request has been taken. -/
  terminated : Bool
  /-- How often the child has been killed. -/
  kills : Nat
  stage : Supervisor.Stage
  /-- The reports sent. -/
  reports : List ProcessExit
deriving DecidableEq, Repr

namespace Supervisor

/-- A supervisor whose child runs. -/
def start : Supervisor where
  ended := none
  queue := 0
  controlled := true
  listening := true
  terminated := false
  kills := 0
  stage := .waiting
  reports := []

/-- What can happen to a supervised process. -/
inductive Event where
  /-- The child ends. -/
  | childEnds (status : WaitStatus)
  /-- Somebody asks for termination. -/
  | request
  /-- The last one who could ask goes away. -/
  | release
  /-- The supervisor takes a request, or notices that there will be none. -/
  | take
  /-- The supervisor observes the end of the child. -/
  | observe
  /-- The supervisor cannot wait for the child. -/
  | waitFails
  /-- The supervisor reports the end. -/
  | report
  /-- The supervisor goes away. -/
  | stop
deriving DecidableEq, Repr

/-- What a refused request says. -/
def refusal : String := "process has already exited"

/-- Asks for termination. The request is queued unless there is no supervisor any more. -/
def terminate (s : Supervisor) : Except String Supervisor :=
  if s.stage = .stopped then .error refusal else .ok { s with queue := s.queue + 1 }

/-- Whether a request is accepted now. -/
def accepts (s : Supervisor) : Bool := s.controlled && s.terminate.toBool

/-- What a supervisor does that turns to its requests. The first one it takes kills the child. -/
def receive (s : Supervisor) : Supervisor :=
  if 0 < s.queue then
    if s.terminated then { s with queue := s.queue - 1 }
    else { s with queue := s.queue - 1, terminated := true, kills := s.kills + 1 }
  else if s.controlled then s
  else { s with listening := false }

/-- The supervisor after an event. An event that cannot happen changes nothing. -/
def step (s : Supervisor) : Event → Supervisor
  | .childEnds status => { s with ended := s.ended.or (some status) }
  | .request => if s.controlled then s.terminate.toOption.getD s else s
  | .release => { s with controlled := false }
  | .take => if s.stage = .waiting ∧ s.listening then s.receive else s
  | .observe =>
    match s.stage, s.ended with
    | .waiting, some status => { s with stage := .draining (some status.code) }
    | _, _ => s
  | .waitFails => if s.stage = .waiting then { s with stage := .draining none } else s
  | .report =>
    match s.stage with
    | .draining code =>
      { s with stage := .reported, reports := s.reports ++ [⟨code, s.terminated⟩] }
    | _ => s
  | .stop => if s.stage = .reported then { s with stage := .stopped } else s

/-- The supervisor after events in order. -/
def run (s : Supervisor) (events : List Event) : Supervisor := events.foldl step s

end Supervisor

end ModelCheck
