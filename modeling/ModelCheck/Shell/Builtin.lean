import ModelCheck.Shell.Expansion
import ModelCheck.Shell.Printing

/-!
# Commands of the shell

The commands that a shell carries out itself, and the common tools that it can
start. None of them reads anything but files and the standard input.
-/

namespace ModelCheck.Shell

/-- How a shell goes on after a command. -/
inductive Flow where
  | next
  | exit (status : Nat)
  | killed (signal : Nat)
  /-- A number of loops is left; the last of them may go on with its next round. -/
  | leave (loops : Nat) (again : Bool)
deriving DecidableEq, Repr

/-- What a command has done, and how the shell goes on. -/
abbrev Ran := Shell × Flow

/-! ### Files -/

/-- What stands where a path leads to. -/
def node? (s : List Char) (sh : Shell) : Option FileNode :=
  (sh.files.get sh.directory (pathOf s)).toOption

/-- The content of a file, or of the standard input for a dash. -/
def contentOf? (s : List Char) (sh : Shell) : Option Text.Bytes :=
  if s = ['-'] then some sh.input else (sh.files.read sh.directory (pathOf s)).toOption

/-- The contents of files one after the other, and whether all can be read. Without files the
standard input is read. -/
def contents (files : List (List Char)) (sh : Shell) : Text.Bytes × Bool :=
  if files.isEmpty then (sh.input, true)
  else
    let read := files.map sh.contentOf?
    (read.flatMap (·.getD []), read.all Option.isSome)

/-! ### Tests -/

/-- A test of one word behind a sign. -/
def testUnary (sign : List Char) (s : List Char) (sh : Shell) : Option Bool :=
  match sign with
  | ['-', 'n'] => some !s.isEmpty
  | ['-', 'z'] => some s.isEmpty
  | ['-', 'e'] => some (sh.node? s).isSome
  | ['-', 'r'] => some (sh.node? s).isSome
  | ['-', 'w'] => some (sh.node? s).isSome
  | ['-', 'd'] => some (sh.node? s = some .directory)
  | ['-', 'f'] => some (match sh.node? s with
    | some (.file _ _) => true
    | _ => false)
  | ['-', 's'] => some (match sh.node? s with
    | some (.file content _) => !content.isEmpty
    | some .directory => true
    | _ => false)
  | ['-', 'x'] => some (match sh.node? s with
    | some (.file _ executable) => executable
    | some .directory => true
    | _ => false)
  | ['-', 't'] => some false
  | _ => none

/-- A test of two words with a sign between them. -/
def testBinary (a sign b : List Char) : Option Bool :=
  match String.ofList sign with
  | "=" => some (a = b)
  | "==" => some (a = b)
  | "!=" => some (a ≠ b)
  | "-eq" => some (numberOf a = numberOf b)
  | "-ne" => some (numberOf a ≠ numberOf b)
  | "-lt" => some (numberOf a < numberOf b)
  | "-le" => some (numberOf a ≤ numberOf b)
  | "-gt" => some (numberOf b < numberOf a)
  | "-ge" => some (numberOf b ≤ numberOf a)
  | _ => none

/-- The result of a test, if it is one. -/
def test? : List (List Char) → Shell → Option Bool
  | [], _ => some false
  | [s], _ => some !s.isEmpty
  | [['!'], s], _ => some s.isEmpty
  | [sign, s], sh => testUnary sign s sh
  | [a, sign, b], sh =>
    (testBinary a sign b).or
      (if a = ['!'] then (testUnary sign b sh).map (!·) else none)
  | a :: b :: c :: rest, sh =>
    if a = ['!'] then (test? (b :: c :: rest) sh).map (!·)
    else
      match rest with
      | join :: rest =>
        (testBinary a b c).bind fun first =>
          (test? rest sh).bind fun second =>
            if join = ['-', 'a'] then some (first && second)
            else if join = ['-', 'o'] then some (first || second)
            else none
      | [] => none

/-- The status of a test. -/
def testStatus (words : List (List Char)) (sh : Shell) : Nat :=
  match test? words sh with
  | some true => 0
  | some false => 1
  | none => 2

/-! ### Signals -/

/-- Signals by their names. -/
def signalNames : List (String × Nat) :=
  [("HUP", 1), ("INT", 2), ("QUIT", 3), ("ILL", 4), ("TRAP", 5), ("ABRT", 6), ("BUS", 7),
   ("FPE", 8), ("KILL", 9), ("USR1", 10), ("SEGV", 11), ("USR2", 12), ("PIPE", 13),
   ("ALRM", 14), ("TERM", 15), ("STKFLT", 16), ("CHLD", 17), ("CONT", 18), ("STOP", 19),
   ("TSTP", 20), ("TTIN", 21), ("TTOU", 22), ("URG", 23), ("XCPU", 24), ("XFSZ", 25),
   ("VTALRM", 26), ("PROF", 27), ("WINCH", 28), ("POLL", 29), ("PWR", 30), ("SYS", 31)]

/-- The number of a signal given by number or name. -/
def signalOf? (s : List Char) : Option Nat :=
  (Text.readNat32? s).or
    (let name := String.ofList s
     signalNames.lookup (if name.startsWith "SIG" then String.ofList (s.drop 3) else name))

/-- The signals that do not end a process that does nothing about them. -/
def harmless : List Nat := [0, 17, 18, 23, 28]

/-- The signals that nobody can ignore. -/
def irresistible : List Nat := [9, 19]

/-- A shell that sends itself a signal. -/
def receive (signal : Nat) (sh : Shell) : Ran :=
  if harmless.contains signal || (sh.ignored.contains signal && !irresistible.contains signal) then
    (sh.withStatus 0, .next)
  else (sh.withStatus 0, .killed signal)

/-- Sends a signal. Only the shell itself can be reached. -/
def kill (arguments : List (List Char)) (sh : Shell) : Ran :=
  let (signal, targets) : Option Nat × List (List Char) :=
    match arguments with
    | ['-', 's'] :: name :: rest => (signalOf? name, rest)
    | ('-' :: name) :: rest => (signalOf? name, rest)
    | rest => (some 15, rest)
  match signal with
  | none => (sh.complain "kill: invalid signal".toList 1, .next)
  | some signal =>
    if targets.contains ownNumber then sh.receive signal
    else (sh.complain "kill: No such process".toList 1, .next)

/-! ### Tools -/

/-- The lines of a content, each with its end. -/
def linesOf : Text.Bytes → List Text.Bytes
  | [] => []
  | b :: rest =>
    if b = 10 then [b] :: linesOf rest
    else
      match linesOf rest with
      | [] => [[b]]
      | line :: others => (b :: line) :: others

/-- What `head` and `tail` are asked for: how many lines or bytes, and the files. -/
def amount (arguments : List (List Char)) : Nat × Bool × List (List Char) :=
  let number (s : List Char) : Nat := (Text.readNat64? s).getD 0
  match arguments with
  | ['-', 'n'] :: n :: files => (number n, false, files)
  | ['-', 'c'] :: n :: files => (number n, true, files)
  | ('-' :: 'n' :: n) :: files => (number n, false, files)
  | ('-' :: 'c' :: n) :: files => (number n, true, files)
  | ('-' :: n) :: files =>
    if n.isEmpty then (10, false, ['-'] :: files) else (number n, false, files)
  | files => (10, false, files)

/-- The numbers from one to another. -/
def sequenceOf (first step last : Int) : List Int :=
  if step = 0 then []
  else
    let count := (last - first).fdiv step + 1
    (List.range count.toNat).map fun (n : Nat) => first + step * n

/-- The characters that a set of `tr` stands for: escapes and ranges are written out. -/
def characterSet (s : List Char) : List UInt8 :=
  let rec ranges : List UInt8 → List UInt8
    | first :: 45 :: last :: rest =>
      (List.range (last.toNat + 1 - first.toNat)).map (fun n => first + UInt8.ofNat n)
        ++ ranges rest
    | b :: rest => b :: ranges rest
    | [] => []
  ranges (formatted (s.flatMap fun c => if c = '%' then ['%', '%'] else [c]) [])

/-- Replaces or deletes bytes. The last byte of the second set stands for all that it lacks. -/
def translate (arguments : List (List Char)) (content : Text.Bytes) : Text.Bytes :=
  match arguments with
  | [['-', 'd'], gone] =>
    let gone := characterSet gone
    content.filter (!gone.contains ·)
  | [old, new] =>
    let old := characterSet old
    let new := characterSet new
    let pairs := old.zip (new ++ List.replicate old.length (new.getLast?.getD 0))
    content.map fun b => (pairs.lookup b).getD b
  | _ => content

/-- The number of words in a content. -/
def wordCount (content : Text.Bytes) : Nat :=
  ((content.splitOnP fun b => b ≤ 32).filter (!·.isEmpty)).length

/-- What `wc` counts: lines, words and bytes, or those of them that it is asked for. -/
def count (arguments : List (List Char)) (content : Text.Bytes) : List Char :=
  let options := (arguments.filter (·.head? = some '-')).flatten
  let counts := [('l', content.count 10), ('w', wordCount content), ('c', content.length)]
  let asked := counts.filter fun c => options.contains c.1
  match if asked.isEmpty then counts else asked with
  | [one] => Text.decimal one.2
  | several => several.flatMap fun c =>
    let digits := Text.decimal c.2
    List.replicate (7 - digits.length) ' ' ++ digits

/-- How many lines `yes` writes for a reader that has had enough. -/
def endlessLines : Nat := 100000

/-- Makes directories, those above them too if asked to. -/
def makeDirectories (arguments : List (List Char)) (sh : Shell) : Shell :=
  let parents := arguments.contains ['-', 'p']
  (arguments.filter (·.head? ≠ some '-')).foldl (fun (sh : Shell) s =>
    let path := pathOf s
    if sh.files.exists? sh.directory path then if parents then sh else sh.withStatus 1
    else
      match if parents then
          (FileTree.route sh.directory path).map fun (start, _) => start ++ FileTree.placeOf path
        else sh.files.find sh.directory path with
      | .ok place => sh.change (.makeDirectory place)
      | .error _ => sh.withStatus 1) (sh.withStatus 0)

/-- Removes files, with all below them if asked to. -/
def removeFiles (arguments : List (List Char)) (sh : Shell) : Shell :=
  let options := (arguments.filter (·.head? = some '-')).flatten
  (arguments.filter (·.head? ≠ some '-')).foldl (fun (sh : Shell) s =>
    match sh.files.find sh.directory (pathOf s), sh.node? s with
    | .ok place, some node =>
      if node = .directory && !(options.contains 'r' || options.contains 'R') then sh.withStatus 1
      else sh.change (.remove place)
    | _, _ => if options.contains 'f' then sh else sh.withStatus 1) (sh.withStatus 0)

/-- Creates files that are not there. -/
def touch (arguments : List (List Char)) (sh : Shell) : Shell :=
  arguments.foldl (fun (sh : Shell) s =>
    match sh.files.findWritable sh.directory (pathOf s) with
    | .ok place => sh.change (.append place [])
    | .error _ => sh.withStatus 1) (sh.withStatus 0)

/-- Whether a time to sleep is more than nothing. -/
def lasts (s : List Char) : Bool := s.any fun c => c ≠ '0' && c ≠ '.' && c ≠ 's'

/-- Lines of text. -/
def asLines (lines : List (List Char)) : Text.Bytes := lines.flatMap fun s => bytes (s ++ ['\n'])

/-- Reads a line of the standard input into variables; the last one takes the rest. -/
def readLine (names : List (List Char)) (sh : Shell) : Shell :=
  let line := sh.input.takeWhile (· ≠ 10)
  let rest := sh.input.dropWhile (· ≠ 10)
  let text := Text.decode line
  let rec set : List (List Char) → List Char → Shell → Shell
    | [], _, sh => sh
    | [name], s, sh =>
      sh.assign name ((s.reverse.dropWhile isSpace).reverse.dropWhile isSpace)
    | name :: names, s, sh =>
      let s := s.dropWhile isSpace
      set names (s.dropWhile (!isSpace ·)) (sh.assign name (s.takeWhile (!isSpace ·)))
  let sh := set (names.filter (· ≠ ['-', 'r'])) text { sh with input := rest.drop 1 }
  sh.withStatus (if rest.isEmpty then 1 else 0)

/-- Carries out a tool that any process can start, unless there is none of that name. -/
def tool? (name : List Char) (arguments : List (List Char)) (sh : Shell) : Option Shell :=
  match String.ofList name with
  | "cat" =>
    let files := arguments.filter (· ≠ ['-', 'u'])
    let (content, all) := sh.contents files
    some (({ sh with input := if files.isEmpty then [] else sh.input }).print content
      (if all then 0 else 1))
  | "echo" => some (sh.print (echo arguments) 0)
  | "printf" =>
    match arguments with
    | [] => some (sh.withStatus 2)
    | ['-', '-'] :: format :: rest => some (sh.print (formatted format rest) 0)
    | format :: rest => some (sh.print (formatted format rest) 0)
  | "true" => some (sh.withStatus 0)
  | "false" => some (sh.withStatus 1)
  | "pwd" => some (sh.print (asLines [spelled sh.directory]) 0)
  | "test" => some (sh.withStatus (sh.testStatus arguments))
  | "[" => some (sh.withStatus
      (if arguments.getLast? = some [']'] then sh.testStatus arguments.dropLast else 2))
  | "sleep" => some ((if arguments.any lasts then sh.doing .pause else sh).withStatus 0)
  | "head" =>
    let (count, inBytes, files) := amount arguments
    let (content, all) := sh.contents files
    let front := if inBytes then content.take count else ((linesOf content).take count).flatten
    some (sh.print front (if all then 0 else 1))
  | "tail" =>
    let (count, inBytes, files) := amount arguments
    let (content, all) := sh.contents files
    let pieces := if inBytes then content.map ([·]) else linesOf content
    some (sh.print (pieces.drop (pieces.length - count)).flatten (if all then 0 else 1))
  | "seq" =>
    let numbers := match arguments.map numberOf with
      | [last] => sequenceOf 1 1 last
      | [first, last] => sequenceOf first 1 last
      | [first, step, last] => sequenceOf first step last
      | _ => []
    some (sh.print (asLines (numbers.map spellInt)) 0)
  | "tr" => some (({ sh with input := [] }).print (translate arguments sh.input) 0)
  | "wc" =>
    let (content, all) := sh.contents (arguments.filter (·.head? ≠ some '-'))
    some (sh.print (asLines [count arguments content]) (if all then 0 else 1))
  | "yes" =>
    let line := if arguments.isEmpty then ['y'] else spaced arguments
    some (sh.print (List.replicate endlessLines (asLines [line])).flatten 0)
  | "mkdir" => some (sh.makeDirectories arguments)
  | "rm" => some (sh.removeFiles arguments)
  | "touch" => some (sh.touch arguments)
  | "basename" =>
    some (sh.print (asLines [(((pathOf (arguments.headD [])).fileName?).getD "").toList]) 0)
  | "dirname" =>
    let above := ((pathOf (arguments.headD [])).parent?.getD ⟨"/"⟩).spelling.toList
    some (sh.print (asLines [if above.isEmpty then ['.'] else above]) 0)
  | "printenv" =>
    match (sh.valueOf? (arguments.headD [])) with
    | some value => some (sh.print (asLines [value]) 0)
    | none => some (sh.withStatus 1)
  | _ => none

/-! ### Commands of the shell itself -/

/-- The status that an exit is asked to have. -/
def exitStatus (arguments : List (List Char)) (sh : Shell) : Nat :=
  match arguments with
  | [] => sh.status
  | s :: _ => (Text.readNat32? s).elim 2 (· % 256)

/-- How many loops are to be left. -/
def loopCount (arguments : List (List Char)) : Nat :=
  max 1 ((Text.readNat32? (arguments.headD ['1'])).getD 1)

/-- Sets variables by words of the form `name=value`. -/
def assignAll (words : List (List Char)) (sh : Shell) : Shell :=
  words.foldl (fun sh w =>
    match w.dropWhile (· ≠ '=') with
    | _ :: value => sh.assign (w.takeWhile (· ≠ '=')) value
    | [] => sh) (sh.withStatus 0)

/-- Ignores signals, or stops ignoring them. Nothing else is done about signals. -/
def trap (arguments : List (List Char)) (sh : Shell) : Shell :=
  match arguments with
  | [] :: signals =>
    { sh with ignored := signals.filterMap signalOf? ++ sh.ignored, status := 0 }
  | ['-'] :: signals =>
    let given := signals.filterMap signalOf?
    { sh with ignored := sh.ignored.filter (!given.contains ·), status := 0 }
  | _ => sh.withStatus 0

/-- Goes to another directory. -/
def goTo (s : List Char) (sh : Shell) : Shell :=
  match sh.files.findDirectory sh.directory (pathOf s) with
  | .ok place => { sh with directory := place, status := 0 }
  | .error _ => sh.complain ("cd: can't cd to ".toList ++ s) 2

/-- Carries out a command of the shell itself, unless there is none of that name. -/
def own? (name : List Char) (arguments : List (List Char)) (sh : Shell) : Option Ran :=
  match String.ofList name with
  | ":" => some (sh.withStatus 0, .next)
  | "exit" =>
    let status := sh.exitStatus arguments
    some (sh.withStatus status, .exit status)
  | "break" => some (sh.withStatus 0, .leave (loopCount arguments) false)
  | "continue" => some (sh.withStatus 0, .leave (loopCount arguments) true)
  | "kill" => some (sh.kill arguments)
  | "shift" =>
    let count := (Text.readNat32? (arguments.headD ['1'])).getD 1
    some ({ sh with arguments := sh.arguments.drop count, status := 0 }, .next)
  | "set" =>
    match arguments with
    | ['-', '-'] :: rest => some ({ sh with arguments := rest, status := 0 }, .next)
    | _ => some (sh.withStatus 0, .next)
  | "cd" => some (sh.goTo (arguments.headD ((sh.valueOf? "HOME".toList).getD ['/'])), .next)
  | "export" => some (sh.assignAll arguments, .next)
  | "readonly" => some (sh.assignAll arguments, .next)
  | "unset" =>
    some ({ sh with bindings := sh.bindings.filter (!arguments.contains ·.1), status := 0 }, .next)
  | "read" => some (sh.readLine arguments, .next)
  | "trap" => some (sh.trap arguments, .next)
  | "wait" =>
    some ({ sh with done := sh.background.reverse ++ sh.done, background := [], status := 0 },
      .next)
  | "umask" => some (sh.withStatus 0, .next)
  | _ => none

end ModelCheck.Shell
