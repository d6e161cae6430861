/-!
# Commands

The three commands a host can send. None takes an argument: the file to check is
the active document.
-/

namespace ModelCheck

/-- A command for the controller. -/
inductive Command where
  | run
  | stop
  | display
deriving DecidableEq, Repr

namespace Command

/-- The identifier under which a host registers the command. -/
def id : Command → String
  | .run => "tlaplus.model.check.run"
  | .stop => "tlaplus.model.check.stop"
  | .display => "tlaplus.model.check.display"

/-- All commands. -/
def all : List Command := [.run, .stop, .display]

/-- The command with an identifier. -/
def ofId? (text : String) : Option Command := all.find? fun c => c.id = text

/-- Reading back the identifier of a command gives the command. -/
theorem ofId?_id (c : Command) : ofId? c.id = some c := by
  cases c <;> decide

end Command

end ModelCheck
