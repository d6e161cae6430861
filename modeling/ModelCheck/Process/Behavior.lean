import ModelCheck.FileTree
import ModelCheck.Process.Exit

/-!
# What processes do

Seen from outside, a process writes to its output, changes files, and lets time
pass, until it ends. Only while time passes can others act on it.
-/

namespace ModelCheck

/-- A change of a file tree. -/
inductive FileChange where
  | append (place : Place) (content : Text.Bytes)
  | truncate (place : Place)
  | makeDirectory (place : Place)
  | remove (place : Place)
deriving DecidableEq, Repr

namespace FileChange

/-- The tree after a change. -/
def apply (c : FileChange) (t : FileTree) : FileTree :=
  match c with
  | .append place content => t.appendAt place content
  | .truncate place => t.truncateAt place
  | .makeDirectory place => t.makeDirectories place
  | .remove place => t.remove place

end FileChange

/-- One thing that a process does. -/
inductive Effect where
  | write (content : Text.Bytes)
  | closeOutput
  | change (c : FileChange)
  /-- Time passes. -/
  | pause
deriving DecidableEq, Repr

/-- What a process does from its start to its end, how it ends, and what the processes that it
leaves behind still do. Its output stays open for them. -/
structure Behavior where
  effects : List Effect
  ending : WaitStatus
  afterwards : List Effect
deriving DecidableEq, Repr

namespace Behavior

/-- What is written by effects up to the end or the close of the output. -/
def written : List Effect → Text.Bytes
  | [] => []
  | .write content :: rest => content ++ written rest
  | .closeOutput :: _ => []
  | _ :: rest => written rest

end Behavior

end ModelCheck
