import ModelCheck.Config.Basic
import ModelCheck.Diagnostic.Jsonl
import ModelCheck.Failure
import ModelCheck.FileTree

/-!
# Where diagnostics go

Diagnostics go to the standard output or to the end of a file. Each collection
opens the file anew and creates it if it is not there, even to write nothing.
-/

namespace ModelCheck

/-- Files, and what has been written to the standard output. -/
structure Storage where
  files : FileTree
  here : Place
  output : Text.Bytes
deriving DecidableEq, Repr

namespace Sink

/-- The failure to open a target. -/
def notOpened (target : String) (cause : FileError) : Failure :=
  .within ("opening diagnostics output " ++ target) (.ofCause cause.message)

/-- Writes a collection to a target. -/
def apply (target : String) (c : Collection) (s : Storage) : Except Failure Storage :=
  let payload := Text.encode (Jsonl.encode c)
  if target = Config.standardOutput then .ok { s with output := s.output ++ payload }
  else
    match s.files.append s.here ⟨target⟩ payload with
    | .ok files => .ok { s with files := files }
    | .error cause => .error (notOpened target cause)

/-- The objection of a target to any collection. -/
def objection? (target : String) (s : Storage) : Option Failure :=
  match apply target .empty s with
  | .ok _ => none
  | .error failure => some failure

end Sink

end ModelCheck
