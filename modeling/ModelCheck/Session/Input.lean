import ModelCheck.Command
import ModelCheck.Path
import ModelCheck.Text.Blank

/-!
# Session input

A line of a session begins with a word, which a blank character ends. The word
decides what the line asks for; only opening a file uses the rest of the line, and
takes it as it stands between the blank characters around it.
-/

namespace ModelCheck.Session

/-- What a line asks for. -/
inductive Input where
  | command (c : Command)
  | «open» (path : Path)
  | help
  | quit
  | empty
deriving DecidableEq, Repr

/-- Why a line asks for nothing. -/
inductive InputError where
  | fileMissing
  | unknown (word : String)
deriving DecidableEq, Repr

namespace InputError

/-- What the user is told. -/
def message : InputError → String
  | .fileMissing => "open needs a file"
  | .unknown word => "unknown command: " ++ word

end InputError

namespace Input

/-- The first word of a text that begins with none, and the trimmed rest. -/
def splitWord (s : List Char) : List Char × List Char :=
  (s.takeWhile fun c => !Text.isBlank c, Text.trim (s.dropWhile fun c => !Text.isBlank c))

/-- What a word with the rest of its line asks for. -/
def ofWord (word rest : List Char) : Except InputError Input :=
  match String.ofList word with
  | "" => .ok .empty
  | "run" => .ok (.command .run)
  | "check" => .ok (.command .run)
  | "stop" => .ok (.command .stop)
  | "display" => .ok (.command .display)
  | "show" => .ok (.command .display)
  | "open" => if rest.isEmpty then .error .fileMissing else .ok (.open ⟨String.ofList rest⟩)
  | "help" => .ok .help
  | "?" => .ok .help
  | "quit" => .ok .quit
  | "exit" => .ok .quit
  | other => (Command.ofId? other).elim (.error (.unknown other)) fun c => .ok (.command c)

/-- Reads a line. -/
def parse (line : String) : Except InputError Input :=
  let (word, rest) := splitWord (Text.trim line.toList)
  ofWord word rest

end Input

end ModelCheck.Session
