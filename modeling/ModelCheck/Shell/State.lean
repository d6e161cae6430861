import ModelCheck.Process.Behavior
import ModelCheck.Shell.Arithmetic
import ModelCheck.Shell.Word

/-!
# The state of a shell

A running shell has a directory, parameters and open descriptors, and has done
some things already. What it writes goes to the output of its process, to a file,
into a collection for another command, or nowhere.
-/

namespace ModelCheck

/-- Where a descriptor of a shell leads. -/
inductive Shell.Stream where
  | output
  | file (place : Place)
  | collection
  | nowhere
deriving DecidableEq, Repr

/-- The state of a shell. -/
structure Shell where
  files : FileTree
  directory : Place
  /-- The name under which the shell was started. -/
  name : List Char
  arguments : List (List Char)
  /-- The variables with their values. -/
  bindings : List (List Char × List Char)
  /-- How the last command ended. -/
  status : Nat
  descriptors : List (Nat × Shell.Stream)
  /-- What can still be read from the standard input. -/
  input : Text.Bytes
  collected : Text.Bytes
  /-- What has been done, the last thing first. -/
  done : List Effect
  /-- What is done in the background. -/
  background : List Effect
  /-- The signals that do not end the shell. -/
  ignored : List Nat

namespace Shell

/-- A number that stands for the process of a shell. -/
def ownNumber : List Char := "4242".toList

/-- A shell that has just been started. -/
def start (files : FileTree) (directory : Place) (bindings : List (List Char × List Char))
    (name : List Char) (arguments : List (List Char)) : Shell where
  files := files
  directory := directory
  name := name
  arguments := arguments
  bindings := bindings
  status := 0
  descriptors := [(1, .output), (2, .nowhere)]
  input := []
  collected := []
  done := []
  background := []
  ignored := []

/-- The bytes of a text. -/
def bytes (s : List Char) : Text.Bytes := Text.encode (String.ofList s)

/-- A place as the path to it. -/
def spelled (p : Place) : List Char :=
  if p.isEmpty then ['/'] else p.flatMap fun name => '/' :: name

/-- A text as a path. -/
def pathOf (s : List Char) : Path := ⟨String.ofList s⟩

/-! ### Doing things -/

/-- Does something. -/
def doing (e : Effect) (sh : Shell) : Shell := { sh with done := e :: sh.done }

/-- Changes a file. -/
def change (c : FileChange) (sh : Shell) : Shell :=
  { sh with files := c.apply sh.files }.doing (.change c)

/-- Ends a command with a status. -/
def withStatus (n : Nat) (sh : Shell) : Shell := { sh with status := n }

/-- Writes to a descriptor. Fails if it is closed. -/
def write? (descriptor : Nat) (content : Text.Bytes) (sh : Shell) : Option Shell :=
  match sh.descriptors.lookup descriptor with
  | some .output => some (if content.isEmpty then sh else sh.doing (.write content))
  | some (.file place) => some (sh.change (.append place content))
  | some .collection => some { sh with collected := sh.collected ++ content }
  | some .nowhere => some sh
  | none => if content.isEmpty then some sh else none

/-- Writes to the standard output as a command does, which fails if that is closed. -/
def print (content : Text.Bytes) (status : Nat) (sh : Shell) : Shell :=
  match sh.write? 1 content with
  | some sh => sh.withStatus status
  | none => sh.withStatus 1

/-- Complains on the standard error and ends a command with a status. -/
def complain (text : List Char) (status : Nat) (sh : Shell) : Shell :=
  ((sh.write? 2 (bytes (sh.name ++ ": 1: ".toList ++ text ++ ['\n']))).getD sh).withStatus status

/-! ### Parameters -/

/-- The value of a variable. -/
def valueOf? (name : List Char) (sh : Shell) : Option (List Char) := sh.bindings.lookup name

/-- Sets a variable. -/
def assign (name value : List Char) (sh : Shell) : Shell :=
  { sh with bindings := (name, value) :: sh.bindings.filter fun v => v.1 ≠ name }

/-- Words with a blank between each two. -/
def spaced (words : List (List Char)) : List Char := [' '].intercalate words

/-- The value of a parameter, other than the list of all arguments. -/
def parameter? (name : List Char) (sh : Shell) : Option (List Char) :=
  match name with
  | ['@'] => if sh.arguments.isEmpty then none else some (spaced sh.arguments)
  | ['*'] => if sh.arguments.isEmpty then none else some (spaced sh.arguments)
  | ['#'] => some (Text.decimal sh.arguments.length)
  | ['?'] => some (Text.decimal sh.status)
  | ['$'] => some ownNumber
  | ['!'] => some ownNumber
  | ['-'] => some []
  | ['0'] => some sh.name
  | c :: _ =>
    if c.isDigit then (Text.readNat32? name).bind fun n => sh.arguments[n - 1]?
    else sh.valueOf? name
  | [] => none

/-- A text as a whole number, with zero for what is none. -/
def numberOf (s : List Char) : Int :=
  match s with
  | '-' :: rest => -((Text.readNat64? rest).getD 0 : Int)
  | s => ((Text.readNat64? s).getD 0 : Int)

/-- A whole number in digits. -/
def spellInt (n : Int) : List Char :=
  if n < 0 then '-' :: Text.decimal n.natAbs else Text.decimal n.natAbs

/-- The value of an arithmetic expression. -/
def arithmetic? (source : List Char) (sh : Shell) : Option (List Char) :=
  (Arithmetic.evaluate (fun name => numberOf ((sh.parameter? name).getD [])) source).map spellInt

/-! ### Fitting patterns -/

/-- Whether a text fits a pattern: `*` fits any text and `?` any character, unless they are
quoted. -/
def fits : List (Char × Bool) → List Char → Bool
  | [], s => s.isEmpty
  | ('*', false) :: pattern, s =>
    ((List.range (s.length + 1)).any fun n => fits pattern (s.drop n))
  | ('?', false) :: pattern, s =>
    match s with
    | [] => false
    | _ :: s => fits pattern s
  | (c, _) :: pattern, s =>
    match s with
    | [] => false
    | d :: s => c = d && fits pattern s

end Shell

end ModelCheck
