import ModelCheck.Process.Behavior
import ModelCheck.Process.Supervisor

/-!
# Watching a process

Somebody launches a process, reads its output to the end, and may ask for its
termination as soon as the output holds a text. A process can be killed while time
passes; otherwise it goes on to its own end.
-/

namespace ModelCheck.Watch

/-- A wish to terminate a process: after which text, and how often to ask. -/
structure Wish where
  text : List Char
  times : Nat
deriving DecidableEq, Repr

/-- What is seen of a process: its output, how it ended, whether each request was accepted, and
whether one more would be. -/
structure Account where
  output : Text.Bytes
  exit : Option ProcessExit
  requests : List Bool
  acceptsMore : Bool
deriving DecidableEq, Repr

/-- Whether a text occurs in another. -/
def occursIn (text : List Char) : List Char → Bool
  | [] => text.isEmpty
  | c :: s => text.isPrefixOf (c :: s) || occursIn text s

/-- Whether a wish has come to be, given the output so far. -/
def isDue (wish : Option Wish) (output : Text.Bytes) : Bool :=
  wish.any fun w => occursIn w.text (Text.decode output)

/-- What is written until a process is killed or ends, and whether it is killed. -/
def play (wish : Option Wish) : List Effect → (openOutput : Bool) → Text.Bytes →
    Text.Bytes × Bool
  | [], _, output => (output, false)
  | .write content :: rest, openOutput, output =>
    play wish rest openOutput (if openOutput then output ++ content else output)
  | .closeOutput :: rest, _, output => play wish rest false output
  | .change _ :: rest, openOutput, output => play wish rest openOutput output
  | .pause :: rest, openOutput, output =>
    if isDue wish output then (output, true) else play wish rest openOutput output

/-- The number of the signal that kills. -/
def killSignal : Nat := 9

/-- Makes requests, and says of each whether it was accepted. -/
def ask : Nat → Supervisor → List Bool × Supervisor
  | 0, s => ([], s)
  | times + 1, s =>
    let (others, last) := ask times (s.step .request)
    (s.accepts :: others, last)

/-- Watches a process. -/
def watch (b : Behavior) (wish : Option Wish) : Account :=
  let (output, killed) := play wish b.effects true []
  let times := if isDue wish output then wish.elim 0 (·.times) else 0
  let taken := List.replicate times Supervisor.Event.take
  let (requests, s) :=
    if killed then
      let (requests, s) := ask times .start
      (requests, (s.run taken).step (.childEnds (.signaled killSignal)))
    else ask times (Supervisor.start.step (.childEnds b.ending))
  let s := s.run [.observe, .report, .stop]
  let rest := if killed then [] else Behavior.written b.afterwards
  ⟨output ++ if b.effects.contains .closeOutput then [] else rest, s.reports.head?, requests,
    s.accepts⟩

end ModelCheck.Watch
