import ModelCheck.Program
import Std.Time.DateTime.Timestamp

/-!
# The executable

The outer layer of the program: it gathers what the program may look at, runs it,
and writes what has come of it. Lines of a session are read to the end before they
are carried out.
-/

namespace ModelCheck.Executable

/-- The variables that the program and its tools look at. -/
def variableNames : List String :=
  ["HOME", "PATH", "XDG_CONFIG_HOME", "JAVA_HOME", "TLCRUN_JAVA_HOME", "TLCRUN_TLA2TOOLS_JAR",
   "TLCRUN_DIAGNOSTICS_PATH"]

/-- The variables that are set. -/
def readEnvironment : IO Environment :=
  variableNames.filterMapM fun name => do
    return (← IO.getEnv name).map fun value => (name, value)

/-- The time that the clock shows. -/
def readClock : IO Moment := do
  let seconds := (← Std.Time.Timestamp.now).toSecondsSinceUnixEpoch.val
  return ⟨seconds / 86400, (seconds % 86400).toNat, 0⟩

/-- Takes what stands where a path leads to into a tree. What is there and cannot be read as a file
is taken for a directory. -/
def fetch (workingDirectory p : Path) (t : FileTree) : IO FileTree := do
  let place := workingDirectory.join p
  if p.spelling.isEmpty then return t
  try
    let content ← IO.FS.readBinFile place.spelling
    return t.install place (.file content.toList true)
  catch e =>
    match e with
    | .noFileOrDirectory _ _ _ => return t
    | _ => return t.install place .directory

/-- Takes what stands where paths lead to, and above them. -/
def fetchAll (workingDirectory : Path) (paths : List Path) (t : FileTree) : IO FileTree :=
  paths.foldlM (fun t p => do
    let t ← (p.parent?).elim (pure t) (fetch workingDirectory · t)
    fetch workingDirectory p t) t

/-- The documents that lines of a session open. -/
def opened (lines : List String) : List Path :=
  lines.filterMap fun line =>
    match Session.Input.parse line with
    | .ok (.open path) => some path
    | _ => none

/-- What a command line and its configuration may look at. -/
def needed (line : CommandLine) (config : Config) (lines : List String) : List Path :=
  let config := config.withFlags line.flags
  [config.tools.jar, Config.javaBinary config.java.home, ⟨config.diagnostics.path⟩]
    ++ (config.logging.directory.toList.map fun d => d.join Program.logFile)
    ++ line.file.toList ++ opened lines

/-- Reads lines to the end of the input. -/
partial def readLines (input : IO.FS.Stream) : IO (List String) := do
  let line ← input.getLine
  if line.isEmpty then return []
  return line :: (← readLines input)

/-- Writes the files that have changed. -/
def writeBack (before after : FileTree) : IO Unit :=
  after.entries.forM fun (place, node) => do
    match node with
    | .file content _ =>
      if before.node? place ≠ some node then
        let path := String.ofList (Shell.spelled place)
        IO.FS.writeBinFile path ⟨content.toArray⟩
    | .directory =>
      if (before.node? place).isNone then
        IO.FS.createDirAll (String.ofList (Shell.spelled place))
    | .void => pure ()

/-- Runs the program. -/
def run (words : List String) : IO UInt32 := do
  let environment ← readEnvironment
  let workingDirectory : Path := ⟨toString (← IO.currentDir)⟩
  let here := FileTree.placeOf workingDirectory
  let tree := FileTree.usual.install workingDirectory .directory
  let line := (CommandLine.parse words).toOption
  let userDirectory := environment.userDirectory?
  let tree ← fetchAll workingDirectory
    ((line.bind (·.config)).elim (Config.candidates userDirectory) ([·])) tree
  let lines ← if line.any (·.subcommand = .session) then readLines (← IO.getStdin) else pure []
  let config := line.bind fun line =>
    (Config.load tree here environment line.config userDirectory).toOption
  let paths := (line.bind fun line => config.map fun config => needed line config lines).getD []
  let tree ← fetchAll workingDirectory paths tree
  let outcome := Program.run words workingDirectory environment (← readClock)
    (lines.map Program.Incident.line) ⟨tree, here, []⟩ userDirectory
  (← IO.getStderr).putStr outcome.printed
  (← IO.getStdout).write ⟨outcome.storage.output.toArray⟩
  writeBack tree outcome.storage.files
  return outcome.exit.toUInt32

end ModelCheck.Executable

/-- Runs the program on the words of its command line. -/
def main (words : List String) : IO UInt32 := ModelCheck.Executable.run words
