import ModelCheck.Config.Layers

/-!
# The command line

A command line names a subcommand, its file, and options, which may stand before
and after the subcommand. It is read word by word. An option that stands on both
sides counts with its later value; twice on one side it is refused.
-/

namespace ModelCheck

namespace CommandLine

/-- What the program is asked to do. -/
inductive Subcommand where
  | check
  | session
deriving DecidableEq, Repr

namespace Subcommand

/-- The word for a subcommand. -/
def word : Subcommand → String
  | .check => "check"
  | .session => "session"

/-- The subcommand that a word stands for. -/
def ofWord? (s : String) : Option Subcommand := [check, session].find? (·.word = s)

end Subcommand

/-- The word that asks for help in place of a subcommand. -/
def helpWord : String := "help"

/-- What a command line can give: an option, or the file of the subcommand. -/
inductive Slot where
  | config
  | jar
  | javaHome
  | diagnostics
  | ascii
  | file
deriving DecidableEq, Repr

namespace Slot

/-- The options by their long names. -/
def options : List (String × Slot) :=
  [("config", config), ("tla2tools", jar), ("java-home", javaHome), ("diagnostics", diagnostics),
   ("ascii", ascii)]

/-- The option of a long name. Names are not shortened. -/
def ofName? (name : String) : Option Slot := options.lookup name

/-- Whether a slot holds a path, which is never empty. -/
def isPath : Slot → Bool
  | .diagnostics => false
  | .ascii => false
  | _ => true

end Slot

/-- What a user asks for help on. -/
inductive Topic where
  | program
  | subcommand (s : Subcommand)
  /-- The help on help. -/
  | help
deriving DecidableEq, Repr

/-- Why a command line is not carried out. -/
inductive Refusal where
  /-- It asks for help. -/
  | help (topic : Topic)
  /-- It asks for the version. -/
  | version
  /-- It asks for nothing at all. -/
  | nothingGiven
  | subcommandMissing
  | subcommandUnknown
  | fileMissing
  /-- It holds an option or a file that has no place. -/
  | argumentUnknown
  /-- An option has no value, or a path is empty. -/
  | valueInvalid
  /-- An option that takes no value has one. -/
  | valueUnwanted
  /-- An option is given twice on one side of the subcommand. -/
  | repeated
deriving DecidableEq, Repr

namespace Refusal

/-- Whether the program has done what it was asked to, all the same. -/
def isAnswer : Refusal → Bool
  | .help _ => true
  | .version => true
  | _ => false

/-- The exit code of the program. -/
def exitCode (r : Refusal) : Nat := if r.isAnswer then 0 else 2

end Refusal

/-- The values given on one side of the subcommand, or so far. -/
abbrev Given := List (Slot × String)

/-- What has been read of one side of the subcommand. -/
structure Side where
  /-- The subcommand, on its own side. -/
  subcommand : Option Subcommand
  given : Given
  /-- What was read last and has not been judged; an option may still lack its value. -/
  pending : Option (Slot × Option String)
  /-- Whether everything that follows is a file. -/
  escaped : Bool
deriving DecidableEq, Repr

namespace Side

/-- A side of which nothing has been read. -/
def start (subcommand : Option Subcommand) : Side := ⟨subcommand, [], none, false⟩

/-- Whether the next word may be the value of an option. -/
def awaitsValue (s : Side) : Bool :=
  match s.pending with
  | some (_, none) => true
  | _ => false

/-- What help is on when it is asked for on this side. -/
def topic (s : Side) : Topic := s.subcommand.elim .program .subcommand

/-- Fills a slot. Whether it is filled already is judged before its value. -/
def fill (slot : Slot) (value : String) (s : Side) : Except Refusal Side :=
  if s.given.any (·.1 = slot) then .error .repeated
  else if slot.isPath && value.isEmpty then .error .valueInvalid
  else .ok { s with given := s.given ++ [(slot, value)] }

/-- Judges what was read last. -/
def settle (s : Side) : Except Refusal Side :=
  match s.pending with
  | none => .ok s
  | some (_, none) => .error .valueInvalid
  | some (slot, some value) => { s with pending := none }.fill slot value

/-- Takes an option by its name, with the value after its equals sign if there is one. An unknown
name is refused before anything else is judged, and so is a value that is not wanted. -/
def takeLong (name : String) (value : Option String) (s : Side) : Except Refusal Side :=
  let answers := name = "help" || (name = "version" && s.subcommand.isNone)
  if answers then
    if value.isSome then .error .valueUnwanted
    else s.settle.bind fun _ => .error (if name = "help" then .help s.topic else .version)
  else
    match Slot.ofName? name, value with
    | none, _ => .error .argumentUnknown
    | some .ascii, some _ => .error .valueUnwanted
    | some .ascii, none => s.settle.bind (fill .ascii "")
    | some slot, some value => s.settle.bind (fill slot value)
    | some slot, none => s.settle.map fun s => { s with pending := some (slot, none) }

/-- Takes letters behind a single dash, of which the first decides. -/
def takeShort (letter : Char) (s : Side) : Except Refusal Side :=
  if letter = 'h' then s.settle.bind fun _ => .error (.help s.topic)
  else if letter = 'V' && s.subcommand.isNone then s.settle.bind fun _ => .error .version
  else .error .argumentUnknown

/-- Takes a word as the file of the subcommand. Before a subcommand there is no file: the word would
have to be a subcommand, and behind `--` it cannot be one. -/
def takeFile (word : String) (s : Side) : Except Refusal Side :=
  if s.subcommand.isNone then
    if s.escaped && (word = helpWord || (Subcommand.ofWord? word).isSome) then
      .error .argumentUnknown
    else .error .subcommandUnknown
  else if (s.given.any (·.1 = .file)) || s.pending.any (·.1 = .file) then .error .argumentUnknown
  else s.settle.map fun s => { s with pending := some (.file, some word) }

/-- Takes a word that is no subcommand. -/
def take (word : String) (s : Side) : Except Refusal Side :=
  match s.escaped, word.toList with
  | true, _ => s.takeFile word
  | false, ['-', '-'] => .ok { s with escaped := true }
  | false, '-' :: '-' :: long =>
    let value := (long.dropWhile (· ≠ '=')).tail?
    s.takeLong (String.ofList (long.takeWhile (· ≠ '='))) (value.map String.ofList)
  | false, '-' :: letter :: _ => s.takeShort letter
  | false, _ =>
    match s.pending with
    | some (slot, none) => .ok { s with pending := some (slot, some word) }
    | _ => s.takeFile word

/-- Judges a side whose last word has been read and behind which no subcommand follows. -/
def finish (s : Side) : Except Refusal (Subcommand × Given) :=
  s.settle.bind fun s =>
    match s.subcommand with
    | none => .error (if s.given.isEmpty then .nothingGiven else .subcommandMissing)
    | some .session => .ok (.session, s.given)
    | some .check =>
      if s.given.any (·.1 = .file) then .ok (.check, s.given) else .error .fileMissing

end Side

/-- What the words after a request for help come to: each would have to name a subcommand of the one
before it, and only the program itself has any. -/
def helpOn : List String → Refusal
  | [] => .help .program
  | [word] =>
    if word = helpWord then .help .help
    else (Subcommand.ofWord? word).elim .subcommandUnknown fun s => .help (.subcommand s)
  | _ => .subcommandUnknown

/-- Reads words on one side and all that follows. The values on the later side come first. -/
def read (s : Side) : List String → Except Refusal (Subcommand × Given)
  | [] => s.finish
  | word :: rest =>
    if s.subcommand.isNone && !s.escaped && !s.awaitsValue && word = helpWord then
      .error (helpOn rest)
    else
      match if s.subcommand.isNone && !s.escaped && !s.awaitsValue then Subcommand.ofWord? word
        else none with
      | some subcommand =>
        (read (.start (some subcommand)) rest).bind fun (subcommand, later) =>
          s.settle.map fun s => (subcommand, later ++ s.given)
      | none => (s.take word).bind fun s => read s rest

end CommandLine

/-- What a command line asks for. -/
structure CommandLine where
  subcommand : CommandLine.Subcommand
  file : Option Path
  /-- The configuration file to read in place of the usual ones. -/
  config : Option Path
  flags : Flags
deriving DecidableEq, Repr

namespace CommandLine

/-- A command line from the values it gives. -/
def ofGiven (subcommand : Subcommand) (given : Given) : CommandLine where
  subcommand := subcommand
  file := (given.lookup .file).map Path.mk
  config := (given.lookup .config).map Path.mk
  flags := {
    jar := (given.lookup .jar).map Path.mk
    javaHome := (given.lookup .javaHome).map Path.mk
    diagnostics := given.lookup .diagnostics
    ascii := (given.lookup .ascii).isSome }

/-- Reads the words after the name of the program. -/
def parse (words : List String) : Except Refusal CommandLine :=
  (read (.start none) words).map fun (subcommand, given) => ofGiven subcommand given

end CommandLine

end ModelCheck
