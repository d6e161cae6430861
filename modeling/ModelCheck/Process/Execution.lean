import ModelCheck.Config.Layers
import ModelCheck.Launcher
import ModelCheck.Shell.Run

/-!
# Executing programs

A program is a common tool, the shell, or a file with the name of a shell in its
first line. A name without a slash is looked for in the directories of the search
path; any other path is taken from the directory in which the program runs.
-/

namespace ModelCheck

namespace Execution

/-- The search path where the environment has none. -/
def usualSearchPath : String := "/bin:/usr/bin"

/-- The directories of the search path. -/
def searchPath (e : Environment) : List (List Char) :=
  ((e.get? "PATH").getD usualSearchPath).toList.splitOnP (· = ':')

/-- Whether a name is the name of a tool or shell that every machine has. -/
def isCommon (name : List Char) : Bool :=
  name = "env".toList || Shell.shellNames.contains (String.ofList name)
    || (Shell.external? name [] (.start .empty [] [] [] [])).isSome

/-- Whether a path leads to a common tool. -/
def isTool (path : List Char) : Bool := (Shell.toolName? path).any isCommon

/-- Checks that what a path leads to can be executed. -/
def check (files : FileTree) (directory : Place) (path : List Char) : Except FileError Unit :=
  if isTool path then .ok ()
  else
    match files.get directory (Shell.pathOf path) with
    | .error e => .error e
    | .ok (.file content true) =>
      match Shell.interpreter? content with
      | some (shell :: _) => if isTool shell then .ok () else .error .missing
      | _ => .error .badFormat
    | .ok _ => .error .notExecutable

/-- Looks for a program in directories. A file that cannot be executed is passed over, and named as
the reason if no other is found. -/
def search (files : FileTree) (directory : Place) (name : List Char) :
    List (List Char) → FileError → Except FileError (List Char)
  | [], reason => .error reason
  | d :: rest, reason =>
    let path := if d.isEmpty then name else d ++ '/' :: name
    match check files directory path with
    | .ok () => .ok path
    | .error .notExecutable => search files directory name rest .notExecutable
    | .error .missing => search files directory name rest reason
    | .error .notDirectory => search files directory name rest reason
    | .error e => .error e

/-- The path of a program. -/
def locate (files : FileTree) (e : Environment) (directory : Place) (program : List Char) :
    Except FileError (List Char) :=
  if program.isEmpty then .error .missing
  else if program.contains '/' then (check files directory program).map fun _ => program
  else search files directory program (searchPath e) .missing

/-- More commands than a script carries out. -/
def commandLimit : Nat := 100000

/-- What a shell has done when it ends. -/
def behavior (ran : Shell.Ran) : Behavior where
  effects := ran.1.done.reverse
  ending := match ran.2 with
    | .killed signal => .signaled signal
    | _ => .exited (ran.1.status % 256)
  afterwards := ran.1.background

/-- Executes a program with arguments in a directory. -/
def execute (files : FileTree) (e : Environment) (directory : Place) (program : String)
    (arguments : List String) : Except FileError Behavior :=
  (locate files e directory program.toList).map fun path =>
    let bindings := e.map fun (name, value) => (name.toList, value.toList)
    let shell := Shell.start files directory bindings path []
    behavior (Shell.runProgram commandLimit path (arguments.map String.toList) shell)

end Execution

namespace Launcher

/-- The directory in which a tool runs that is launched from a directory. -/
def findFolder (files : FileTree) (here : Place) (file : Path) : Except FileError Place :=
  (directory? file).elim (.ok here) (files.findDirectory here)

/-- Launches a tool from a directory, with whatever executes programs: given a directory, a program and
its arguments, that comes to a process or fails. -/
def launchWith {α : Type} (execute : Place → String → List String → Except FileError α)
    (l : Launcher) (files : FileTree) (here : Place) (tool : String) (file : Path)
    (toolArguments : List String) : Except Failure α :=
  if !files.isFile here l.jar then .error l.jarMissing
  else
    let started : Except FileError α := do
      let directory ← findFolder files here file
      execute directory l.java.spelling (l.arguments tool file toolArguments)
    started.mapError fun cause => l.notExecuted cause.message

/-- What the tool will do once it has been launched from a directory, or why it cannot be. -/
def launch (l : Launcher) (files : FileTree) (e : Environment) (here : Place) (tool : String)
    (file : Path) (toolArguments : List String) : Except Failure Behavior :=
  launchWith (Execution.execute files e) l files here tool file toolArguments

end Launcher

end ModelCheck
