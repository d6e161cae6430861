import ModelCheck.Shell.Builtin
import ModelCheck.Shell.Script

/-!
# Running scripts

A script is run by its structure. Each command, and each round of a loop, takes
one unit of fuel from those inside it. Whatever runs out of fuel ends with a
failure.
-/

namespace ModelCheck.Shell

/-- The directories in which the common tools stand. -/
def toolDirectories : List (List Char) :=
  ["/bin/".toList, "/usr/bin/".toList, "/usr/local/bin/".toList]

/-- The names of the shell. -/
def shellNames : List String := ["sh", "dash", "bash"]

/-- The name of a common tool that a path leads to. -/
def toolName? (path : List Char) : Option (List Char) :=
  toolDirectories.findSome? fun d =>
    if d.isPrefixOf path && !(path.drop d.length).contains '/' then some (path.drop d.length)
    else none

/-- Whether an argument of a shell is an option other than the one that gives a script. -/
def isShellOption (s : List Char) : Bool := s.head? = some '-' && !s.contains 'c'

/-- A tool as a process of its own, whose `echo` has no escapes. -/
def external? (name : List Char) (arguments : List (List Char)) (sh : Shell) : Option Shell :=
  if name = "echo".toList then
    let (words, ending) : List (List Char) × List Char :=
      match arguments with
      | ['-', 'n'] :: rest => (rest, [])
      | rest => (rest, ['\n'])
    some (sh.print (bytes (spaced words ++ ending)) 0)
  else sh.tool? name arguments

/-- What a shell does or has done that lasts when a shell within it ends. -/
def resume (outer inner : Shell) : Shell :=
  { outer with
    files := inner.files, status := inner.status, input := inner.input
    collected := inner.collected, done := inner.done, background := inner.background }

/-- Comes back from a shell within a shell, whose exit is an end like any other. -/
def endInner (outer : Shell) (ran : Ran) : Ran :=
  (outer.resume ran.1, match ran.2 with
    | .killed signal => .killed signal
    | _ => .next)

/-- Comes back from a process of its own, whose death is a status like any other. -/
def endProcess (outer : Shell) (ran : Ran) : Shell :=
  match ran.2 with
  | .killed signal => (outer.resume ran.1).withStatus (128 + signal)
  | _ => outer.resume ran.1

/-- Sets or closes a descriptor. -/
def setDescriptor (n : Nat) (stream : Option Stream) (sh : Shell) : Shell :=
  let others := sh.descriptors.filter (·.1 ≠ n)
  { sh with descriptors := stream.elim others fun s => (n, s) :: others }

/-- Opens a file for writing. -/
def openFile (n : Nat) (s : List Char) (first : Place → FileChange) (sh : Shell) : Option Shell :=
  match sh.files.findWritable sh.directory (pathOf s) with
  | .ok place => some ((sh.change (first place)).setDescriptor n (some (.file place)))
  | .error _ => none

/-- Carries out a redirection. Fails if a file or descriptor cannot be used. -/
def redirect (collect : Collect) (r : Redirection) (sh : Shell) : Option Shell :=
  match r with
  | .read n file =>
    let (s, sh) := expandText collect file sh
    ((sh.files.read sh.directory (pathOf s)).toOption).map fun content =>
      if n = 0 then { sh with input := content } else sh
  | .write n file =>
    let (s, sh) := expandText collect file sh
    sh.openFile n s .truncate
  | .append n file =>
    let (s, sh) := expandText collect file sh
    sh.openFile n s fun place => .append place []
  | .duplicate n source =>
    let (s, sh) := expandText collect source sh
    if s = ['-'] then some (sh.setDescriptor n none)
    else
      (Text.readNat32? s).bind fun m =>
        if m = 0 then some sh
        else (sh.descriptors.lookup m).map fun stream => sh.setDescriptor n (some stream)
  | .inPlace n content =>
    let (s, sh) := expandText collect content sh
    some (if n = 0 then { sh with input := bytes s } else sh)

/-- Carries out redirections in order. -/
def redirectAll (collect : Collect) (rs : List Redirection) (sh : Shell) : Option Shell :=
  rs.foldlM (fun sh r => redirect collect r sh) sh

/-- Whether redirections change the standard input. -/
def changesInput (rs : List Redirection) : Bool :=
  rs.any fun
    | .read n _ => n = 0
    | .inPlace n _ => n = 0
    | _ => false

/-- Takes back redirections. -/
def restore (rs : List Redirection) (outer inner : Shell) : Shell :=
  { inner with
    descriptors := outer.descriptors
    input := if changesInput rs then outer.input else inner.input }

/-- Runs something with redirections. -/
def within (collect : Collect) (rs : List Redirection) (body : Shell → Ran) (sh : Shell) : Ran :=
  match redirectAll collect rs sh with
  | none => (sh.complain "cannot redirect".toList 2, .next)
  | some inner =>
    let (inner, flow) := body inner
    (restore rs sh inner, flow)

/-- Whether a descriptor leads to the output of the process. -/
def hasOutput (sh : Shell) : Bool := sh.descriptors.any (·.2 = .output)

/-- Keeps redirections for the rest of the script. The output is closed when no descriptor leads to
it any more. -/
def keepRedirections (collect : Collect) (rs : List Redirection) (sh : Shell) : Ran :=
  match redirectAll collect rs sh with
  | none => (sh.complain "cannot redirect".toList 2, .exit 2)
  | some inner =>
    let closed := sh.hasOutput && !inner.hasOutput
    ((if closed then inner.doing .closeOutput else inner).withStatus 0, .next)

/-- Whether words ask for the output of commands, whose status then counts. -/
def asksOutput (words : List Word) : Bool :=
  words.any fun w => w.any fun
    | .output _ _ => true
    | _ => false

/-- What becomes of a loop after a round, unless it goes on. -/
def leaveLoop (ran : Ran) : Option Ran :=
  match ran.2 with
  | .next => none
  | .leave 1 true => none
  | .leave (n + 2) again => some (ran.1, .leave (n + 1) again)
  | .leave _ _ => some (ran.1, .next)
  | flow => some (ran.1, flow)

/-- Runs the rounds of a loop over words. -/
def runEach (body : Shell → Ran) (name : List Char) : List (List Char) → Shell → Ran
  | [], sh => (sh, .next)
  | value :: rest, sh =>
    let ran := body (sh.assign name value)
    match leaveLoop ran with
    | some left => left
    | none => runEach body name rest ran.1

/-- The program behind `#!` in a script file, with its argument. -/
def interpreter? (content : Text.Bytes) : Option (List (List Char)) :=
  match Text.decode (content.takeWhile (· ≠ 10)) with
  | '#' :: '!' :: line =>
    let line := line.dropWhile isSpace
    let program := line.takeWhile (!isSpace ·)
    let argument := (((line.dropWhile (!isSpace ·)).dropWhile isSpace).reverse.dropWhile
      isSpace).reverse
    some (program :: if argument.isEmpty then [] else [argument])
  | _ => none

mutual

/-- Runs a script. -/
def run : Nat → Script → Shell → Ran
  | 0, _, sh => (sh.withStatus 2, .exit 2)
  | fuel + 1, script, sh =>
    match script with
    | .nothing => (sh, .next)
    | .simple assignments words redirections => runSimple fuel assignments words redirections sh
    | .sequence first second =>
      match run fuel first sh with
      | (sh, .next) => run fuel second sh
      | ran => ran
    | .background body =>
      let (inner, _) := run fuel body { sh with done := [], background := [] }
      ({ sh with
        background := sh.background ++ inner.done.reverse ++ inner.background, status := 0 }, .next)
    | .both first second =>
      match run fuel first sh with
      | (sh, .next) => if sh.status = 0 then run fuel second sh else (sh, .next)
      | ran => ran
    | .either first second =>
      match run fuel first sh with
      | (sh, .next) => if sh.status = 0 then (sh, .next) else run fuel second sh
      | ran => ran
    | .negated body =>
      match run fuel body sh with
      | (sh, .next) => (sh.withStatus (if sh.status = 0 then 1 else 0), .next)
      | ran => ran
    | .pipe first second =>
      let sender := run fuel first ({ sh with collected := [] }.setDescriptor 1 (some .collection))
      match endInner sh sender with
      | (after, .next) =>
        let receiver := { after with input := sender.1.collected, collected := sh.collected }
        let (last, flow) := endInner sh (run fuel second receiver)
        ({ last with input := sh.input }, flow)
      | ran => ran
    | .group body redirections =>
      within (collect fuel) redirections (fun sh => run fuel body sh) sh
    | .subshell body redirections =>
      within (collect fuel) redirections (fun sh => endInner sh (run fuel body sh)) sh
    | .choice condition yes no =>
      match run fuel condition sh with
      | (sh, .next) => if sh.status = 0 then run fuel yes sh else run fuel no (sh.withStatus 0)
      | ran => ran
    | .loop condition body while? =>
      match run fuel condition sh with
      | (tested, .next) =>
        if (tested.status = 0) = while? then
          let ran := run fuel body tested
          match leaveLoop ran with
          | some left => left
          | none => run fuel (.loop condition body while?) ran.1
        else (tested.withStatus 0, .next)
      | ran => (leaveLoop ran).getD ran
    | .each name words body =>
      let (values, sh) := words.elim (sh.arguments, sh) fun ws =>
        expandFields (collect fuel) ws sh
      runEach (fun sh => run fuel body sh) name values (sh.withStatus 0)
    | .branch word patterns body otherwise =>
      let (text, sh) := expandText (collect fuel) word sh
      let (fitting, sh) := patterns.foldl (fun (fitting, sh) p =>
        let (pattern, sh) := expandPattern (collect fuel) p sh
        (fitting || fits pattern text, sh)) (false, sh)
      run fuel (if fitting then body else otherwise) (sh.withStatus 0)

/-- Carries out commands given as text and collects what they write. -/
def collect : Nat → List Char → Shell → List Char × Shell
  | 0, _, sh => ([], sh.withStatus 2)
  | fuel + 1, source, sh =>
    match Script.read source with
    | none => ([], sh.complain "Syntax error".toList 2)
    | some script =>
      let (inner, _) := run fuel script
        ({ sh with collected := [] }.setDescriptor 1 (some .collection))
      (Text.decode inner.collected, { sh.resume inner with collected := sh.collected })

/-- Runs a simple command. -/
def runSimple : Nat → List (List Char × Word) → List Word → List Redirection → Shell → Ran
  | 0, _, _, _, sh => (sh.withStatus 2, .exit 2)
  | fuel + 1, assignments, words, redirections, sh =>
    let (fields, sh) := expandFields (collect fuel) words sh
    let given (sh : Shell) : Shell := assignments.foldl (fun sh (name, value) =>
      let (text, sh) := expandText (collect fuel) value sh
      sh.assign name text) sh
    match fields with
    | [] =>
      within (collect fuel) redirections (fun sh =>
        let after := given sh
        (if asksOutput (words ++ assignments.map (·.2)) then after else after.withStatus 0,
          .next)) sh
    | name :: arguments =>
      if name = "exec".toList then
        match keepRedirections (collect fuel) redirections (given sh) with
        | (sh, .next) =>
          match arguments with
          | [] => (sh, .next)
          | program :: arguments =>
            let (sh, flow) := runProgram fuel program arguments sh
            (sh, match flow with
              | .next => .exit sh.status
              | flow => flow)
        | ran => ran
      else if name = "eval".toList then
        within (collect fuel) redirections (fun sh =>
          match Script.read (spaced arguments) with
          | some script => run fuel script sh
          | none => (sh.complain "Syntax error".toList 2, .exit 2)) (given sh)
      else
        within (collect fuel) redirections (fun before =>
          match own? name arguments before with
          | some ran => ran
          | none =>
            match tool? name arguments (given before) with
            | some after => ({ after with bindings := before.bindings }, .next)
            | none =>
              let (after, flow) := runProgram fuel name arguments (given before)
              match flow with
              | .killed signal =>
                ({ after with bindings := before.bindings }.withStatus (128 + signal), .next)
              | _ => ({ after with bindings := before.bindings }, .next)) sh

/-- Runs a program as a process of its own: a tool, a shell, or a file. -/
def runProgram : Nat → List Char → List (List Char) → Shell → Ran
  | 0, _, _, sh => (sh.withStatus 2, .exit 2)
  | fuel + 1, program, arguments, sh =>
    let tool := if program.contains '/' then toolName? program else some program
    match tool.bind fun name => external? name arguments sh with
    | some after => (after, .next)
    | none =>
      if tool.any fun name => shellNames.contains (String.ofList name) then
        match arguments.dropWhile isShellOption with
        | ('-' :: _) :: source :: rest => runText fuel source (rest.headD program) (rest.drop 1) sh
        | [] => runText fuel (Text.decode sh.input) program [] { sh with input := [] }
        | file :: rest =>
          match sh.files.read sh.directory (pathOf file) with
          | .ok content => runText fuel (Text.decode content) file rest sh
          | .error _ => (sh.complain ("cannot open ".toList ++ file) 2, .next)
      else if tool = some "env".toList then
        match arguments with
        | program :: rest => runProgram fuel program rest sh
        | [] => (sh.withStatus 0, .next)
      else if !program.contains '/' then
        match ((sh.valueOf? "PATH".toList).getD []).splitOnP (· = ':') |>.findSome? fun d =>
            let candidate := d ++ '/' :: program
            match sh.files.get sh.directory (pathOf candidate) with
            | .ok (.file _ true) => some candidate
            | _ => none with
        | some candidate => runProgram fuel candidate arguments sh
        | none => (sh.complain (program ++ ": not found".toList) 127, .next)
      else
        match sh.files.get sh.directory (pathOf program) with
        | .ok (.file content true) =>
          match interpreter? content with
          | some (shell :: options) => runProgram fuel shell (options ++ program :: arguments) sh
          | _ => runText fuel (Text.decode content) program arguments sh
        | .ok _ => (sh.complain (program ++ ": Permission denied".toList) 126, .next)
        | .error _ => (sh.complain (program ++ ": not found".toList) 127, .next)

/-- Runs the text of a script in a shell of its own. -/
def runText : Nat → List Char → List Char → List (List Char) → Shell → Ran
  | 0, _, _, _, sh => (sh.withStatus 2, .exit 2)
  | fuel + 1, source, name, arguments, sh =>
    match Script.read source with
    | none => ({ sh with name := name }.complain "Syntax error".toList 2, .next)
    | some script =>
      let (inner, flow) := run fuel script
        { sh with name := name, arguments := arguments, status := 0, ignored := sh.ignored }
      (sh.resume inner, match flow with
        | .killed signal => .killed signal
        | _ => .next)

end

end ModelCheck.Shell
