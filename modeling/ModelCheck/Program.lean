import ModelCheck.CommandLine.Help
import ModelCheck.Config.Load
import ModelCheck.Session

/-!
# The program

The program reads its command line and its configuration, and then checks one
file or holds a session. While it runs, lines and interrupts reach it, each when
something it waits for has come about.
-/

namespace ModelCheck

namespace Program

/-- Something that happens while the program runs. -/
inductive Incident where
  /-- A line is entered. -/
  | line (text : String)
  | interrupt
  /-- A text has been printed a number of times. -/
  | printed (text : String) (times : Nat)
  /-- A file has a number of lines. -/
  | filled (file : Path) (lines : Nat)
deriving DecidableEq, Repr

/-- What comes of the program: its exit code, what it has told the user, and what it has stored. -/
structure Outcome where
  exit : Nat
  printed : String
  storage : Storage

/-- Lines with their ends. -/
def asText (lines : List String) : String := String.join (lines.map (· ++ "\n"))

/-- How often a text occurs in another, without overlaps. -/
def occurrences (text whole : String) : Nat := (whole.splitOn text).length - 1

/-- The number of lines of a file. -/
def lineCount (s : Storage) (file : Path) : Nat :=
  match s.files.read s.here file with
  | .ok content => content.count 10
  | .error _ => 0

/-- Waits for what an incident waits for. -/
def await (i : Incident) (h : Host) : Host :=
  match i with
  | .line _ => h
  | .interrupt => h
  | .printed text times => h.waitUntil fun h => times ≤ occurrences text h.printed
  | .filled file lines => h.waitUntil fun h => lines ≤ lineCount h.storage file

/-! ### One check -/

/-- Whether a check is over: its task has ended and no run is in progress. -/
def isOver (task : TaskId) (h : Host) : Bool := h.hasEnded task && h.isIdle

/-- An incident during a check. An interrupt stops the check; lines are not read. -/
def duringCheck (task : TaskId) (h : Host) (i : Incident) : Host :=
  match i with
  | .interrupt => if isOver task h then h else h.stop.2
  | i => await i h

/-- Checks a file. -/
def check (file : Path) (incidents : List Incident) (h : Host) : Nat × Host :=
  let (task, h) := (h.openDocument file).request .check
  let h := (incidents.foldl (duringCheck task) h.settle).waitUntil (isOver task)
  (match h.result? task with
    | some (.checked outcome) => outcome.exitCode
    | _ => 1, h)

/-! ### A session -/

/-- An incident during a session. -/
def duringSession (s : Session) (i : Incident) : Session :=
  match i with
  | .line text => s.line text
  | .interrupt => s.interrupt
  | i => if s.closed then s else { s with host := await i s.host }

/-- Holds a session. -/
def session (file : Option Path) (incidents : List Incident) (h : Host) : Host :=
  (incidents.foldl duringSession (Session.start h file)).finish

/-! ### From the command line on -/

/-- The name of the log file in its directory. -/
def logFile : Path := ⟨"tlcrun.log"⟩

/-- Creates the log file, with its directory if need be. -/
def openLog (directory : Path) (s : Storage) : Option Storage :=
  let path := directory.join logFile
  let opened (files : FileTree) : Option FileTree := (files.append s.here path []).toOption
  let created :=
    match FileTree.route s.here directory with
    | .ok (start, _) => s.files.makeDirectories (start ++ FileTree.placeOf directory)
    | .error _ => s.files
  ((opened s.files).or (opened created)).map fun files => { s with files := files }

/-- What is printed in place of an error that ends the program. -/
def errorLine : String := "Error: "

/-- The exit code of a program that cannot write its log. -/
def crashed : Nat := 101

/-- Carries out a command line with a configuration. -/
def carryOut (line : CommandLine) (config : Config) (site : Site)
    (environment : Environment) (now : Moment) (incidents : List Incident) (s : Storage) :
    Outcome :=
  match config.logging.directory.elim (some s) (openLog · s) with
  | none => ⟨crashed, "", s⟩
  | some s =>
    let host := Host.start (config.withFlags line.flags) site s environment now
    match line.subcommand with
    | .check =>
      let (exit, host) := check (line.file.getD ⟨""⟩) incidents host
      ⟨exit, host.printed, host.storage⟩
    | .session =>
      let host := session line.file incidents host
      ⟨0, host.printed, host.storage⟩

/-- Runs the program on the words of its command line. If nobody tells the user's configuration
directory, it is the one that the variables name. -/
def run (words : List String) (site : Site) (environment : Environment) (now : Moment)
    (incidents : List Incident) (s : Storage)
    (userDirectory : Option Path := environment.userDirectory?) : Outcome :=
  let answer (lines : List String) : Storage :=
    { s with output := s.output ++ Text.encode (asText lines) }
  match CommandLine.parse words with
  | .error (.help topic) => ⟨0, "", answer (CommandLine.helpText topic)⟩
  | .error .version => ⟨0, "", answer CommandLine.versionText⟩
  | .error r => ⟨r.exitCode, "", s⟩
  | .ok line =>
    match Config.load s.files s.here environment line.config userDirectory with
    | .error _ => ⟨1, asText [errorLine], s⟩
    | .ok config =>
      carryOut line config site environment now incidents s

end Program

end ModelCheck
