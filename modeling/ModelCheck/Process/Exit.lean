/-!
# How processes end

A process that has exited leaves a wait status: an exit code, or the signal that
ended it. Both become one code, in which a signal counts from 128 on. The checker
gives some codes a meaning of its own.
-/

namespace ModelCheck

/-- How a process ended. The code is missing if nobody could observe it; `terminated` says that the
end followed a request. -/
structure ProcessExit where
  code : Option Int
  terminated : Bool
deriving DecidableEq, Repr

namespace ProcessExit

/-- A process that ended by itself. -/
def exited (code : Int) : ProcessExit := ⟨some code, false⟩

/-- A process that ended after a request. -/
def killed (code : Option Int) : ProcessExit := ⟨code, true⟩

/-- A process whose end nobody can report any more. -/
def lost : ProcessExit := ⟨none, false⟩

end ProcessExit

/-- What a wait status says. -/
inductive WaitStatus where
  | exited (code : Nat)
  | signaled (signal : Nat)
  | other
deriving DecidableEq, Repr

namespace WaitStatus

/-- The first code that stands for a signal. -/
def signalBase : Int := 128

/-- Reads a 32-bit wait status. The low seven bits are 0 after an exit, whose code is in the next
byte; 127 means that the process has not ended; any other value is a signal. -/
def ofRaw (raw : Int) : WaitStatus :=
  let word := (raw % 4294967296).toNat
  let low := word % 128
  if low = 0 then .exited (word / 256 % 256)
  else if low = 127 then .other
  else .signaled low

/-- The code that a wait status becomes. -/
def code : WaitStatus → Int
  | .exited c => c
  | .signaled s => signalBase + s
  | .other => 1

end WaitStatus

/-- What the checker means by an exit code, if it gives it a meaning. -/
def exitMeaning? (code : Int) : Option String :=
  if code = 0 then some "success"
  else if code = 10 then some "assumption violation"
  else if code = 11 then some "deadlock reached"
  else if code = 12 then some "safety violation"
  else if code = 13 then some "liveness violation"
  else if code = 14 then some "assertion violation"
  else if code = 150 then some "specification parse error"
  else if code = 151 then some "configuration parse error"
  else if code = 152 then some "state space too large"
  else if code = 153 then some "system error"
  else if code = 255 then some "general error"
  else none

end ModelCheck
