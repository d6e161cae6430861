import ModelCheck.Shell.Token

/-!
# Scripts

A script is a command, built from simple commands by sequences, conditions, loops
and pipes. Reserved words count only where a command may begin.
-/

namespace ModelCheck.Shell

/-- A redirection of a descriptor. -/
inductive Redirection where
  | read (descriptor : Nat) (file : Word)
  | write (descriptor : Nat) (file : Word)
  | append (descriptor : Nat) (file : Word)
  | duplicate (descriptor : Nat) (source : Word)
  | inPlace (descriptor : Nat) (content : Word)
deriving DecidableEq, Repr

/-- A command. -/
inductive Script where
  | nothing
  | simple (assignments : List (List Char × Word)) (words : List Word)
      (redirections : List Redirection)
  | sequence (first second : Script)
  | background (body : Script)
  | both (first second : Script)
  | either (first second : Script)
  | negated (body : Script)
  | pipe (first second : Script)
  | group (body : Script) (redirections : List Redirection)
  | subshell (body : Script) (redirections : List Redirection)
  | choice (condition yes no : Script)
  | loop (condition body : Script) (while? : Bool)
  | each (name : List Char) (words : Option (List Word)) (body : Script)
  /-- The body of the first branch of which one pattern fits the word. -/
  | branch (word : Word) (patterns : List Word) (body otherwise : Script)
deriving Repr

/-- The words that end a sequence of commands. -/
def closingWords : List String := ["then", "elif", "else", "fi", "do", "done", "esac", "\x7d"]

/-- Whether a token is a given reserved word. -/
def Token.isReserved (text : String) : Token → Bool
  | .word w => w.literal? = some text.toList
  | _ => false

/-- Whether a sequence of commands ends before a token. -/
def Token.closes : Token → Bool
  | .operator ")" => true
  | .operator ";;" => true
  | t => closingWords.any t.isReserved

/-- Passes over ends of lines. -/
def dropNewlines (ts : List Token) : List Token :=
  ts.dropWhile fun
    | .newline _ => true
    | _ => false

/-- Takes a reserved word. -/
def takeReserved (text : String) : List Token → Option (List Token)
  | t :: rest => if t.isReserved text then some rest else none
  | [] => none

/-- A redirection with its word. -/
def Redirection.ofKind (descriptor : Nat) (kind : RedirectionKind) (w : Word) : Redirection :=
  match kind with
  | .read => .read descriptor w
  | .write => .write descriptor w
  | .append => .append descriptor w
  | .duplicate => .duplicate descriptor w

/-- Takes the redirections behind a compound command. -/
def takeRedirections : List Token → List Redirection × List Token
  | .redirection d kind :: .word w :: rest =>
    let (more, rest) := takeRedirections rest
    (.ofKind d kind w :: more, rest)
  | .inPlace d content :: rest =>
    let (more, rest) := takeRedirections rest
    (.inPlace d content :: more, rest)
  | ts => ([], ts)

/-- Takes words and redirections of a simple command. -/
def takeSimple : List Token → List Word × List Redirection × List Token
  | .word w :: rest =>
    let (words, redirections, rest) := takeSimple rest
    (w :: words, redirections, rest)
  | .redirection d kind :: .word w :: rest =>
    let (words, redirections, rest) := takeSimple rest
    (words, .ofKind d kind w :: redirections, rest)
  | .inPlace d content :: rest =>
    let (words, redirections, rest) := takeSimple rest
    (words, .inPlace d content :: redirections, rest)
  | ts => ([], [], ts)

/-- The assignment that a word is, if it is one. -/
def assignment? : Word → Option (List Char × Word)
  | .text content false :: rest =>
    let name := content.takeWhile inName
    match content.dropWhile inName with
    | '=' :: value =>
      if (name.head?.any beginsName) then
        some (name, if value.isEmpty then rest else Word.consText value false rest)
      else none
    | _ => none
  | _ => none

/-- Divides the words of a simple command into assignments and the rest. -/
def splitAssignments : List Word → List (List Char × Word) × List Word
  | [] => ([], [])
  | w :: rest =>
    match assignment? w with
    | some a =>
      let (more, words) := splitAssignments rest
      (a :: more, words)
    | none => ([], w :: rest)

/-- Takes the words of a loop over words. -/
def takeWords : List Token → List Word × List Token
  | .word w :: rest =>
    let (words, rest) := takeWords rest
    (w :: words, rest)
  | ts => ([], ts)

/-- Takes patterns up to the bracket behind them. -/
def takePatterns : List Token → Option (List Word × List Token)
  | .word w :: .operator ")" :: rest => some ([w], rest)
  | .word w :: .operator "|" :: rest => (takePatterns rest).map fun (ws, rest) => (w :: ws, rest)
  | .operator "(" :: rest => takePatterns rest
  | _ => none

/-- Takes the end of a command. -/
def takeSeparator : List Token → List Token
  | .operator ";" :: rest => rest
  | ts => ts

mutual

/-- Reads commands up to what closes them. -/
def readSequence : Nat → List Token → Option (Script × List Token)
  | 0, _ => none
  | fuel + 1, ts => do
    let ts := dropNewlines ts
    match ts with
    | [] => some (.nothing, [])
    | t :: _ =>
      if t.closes then some (.nothing, ts)
      else do
        let (first, ts) ← readConditions fuel ts
        match ts with
        | .operator ";" :: ts => do
          let (second, ts) ← readSequence fuel ts
          some (.sequence first second, ts)
        | .newline _ :: ts => do
          let (second, ts) ← readSequence fuel ts
          some (.sequence first second, ts)
        | .operator "&" :: ts => do
          let (second, ts) ← readSequence fuel ts
          some (.sequence (.background first) second, ts)
        | ts => some (first, ts)

/-- Reads pipes with conditions between them. -/
def readConditions : Nat → List Token → Option (Script × List Token)
  | 0, _ => none
  | fuel + 1, ts => do
    let (first, ts) ← readPipes fuel ts
    readMoreConditions fuel first ts

/-- Reads conditions behind a command. -/
def readMoreConditions : Nat → Script → List Token → Option (Script × List Token)
  | 0, _, _ => none
  | fuel + 1, first, ts =>
    match ts with
    | .operator "&&" :: ts => do
      let (second, ts) ← readPipes fuel (dropNewlines ts)
      readMoreConditions fuel (.both first second) ts
    | .operator "||" :: ts => do
      let (second, ts) ← readPipes fuel (dropNewlines ts)
      readMoreConditions fuel (.either first second) ts
    | ts => some (first, ts)

/-- Reads commands with pipes between them. -/
def readPipes : Nat → List Token → Option (Script × List Token)
  | 0, _ => none
  | fuel + 1, ts =>
    match takeReserved "!" ts with
    | some ts => (readPipes fuel ts).map fun (body, ts) => (.negated body, ts)
    | none => do
      let (first, ts) ← readCommand fuel ts
      match ts with
      | .operator "|" :: ts => do
        let (second, ts) ← readPipes fuel (dropNewlines ts)
        some (.pipe first second, ts)
      | ts => some (first, ts)

/-- Reads a simple or compound command. -/
def readCommand : Nat → List Token → Option (Script × List Token)
  | 0, _ => none
  | fuel + 1, ts =>
    match ts with
    | [] => none
    | .operator "(" :: ts => do
      let (body, ts) ← readSequence fuel ts
      match ts with
      | .operator ")" :: ts =>
        let (redirections, ts) := takeRedirections ts
        some (.subshell body redirections, ts)
      | _ => none
    | .operator _ :: _ => none
    | .newline _ :: _ => none
    | t :: rest =>
      let grouped (body : Script) (ts : List Token) : Script × List Token :=
        let (redirections, ts) := takeRedirections ts
        (if redirections.isEmpty then body else .group body redirections, ts)
      if t.isReserved "\x7b" then do
        let (body, ts) ← readSequence fuel rest
        let ts ← takeReserved "\x7d" ts
        some (grouped body ts)
      else if t.isReserved "if" then do
        let (body, ts) ← readChoice fuel rest
        some (grouped body ts)
      else if t.isReserved "while" || t.isReserved "until" then do
        let (condition, ts) ← readSequence fuel rest
        let ts ← takeReserved "do" ts
        let (body, ts) ← readSequence fuel ts
        let ts ← takeReserved "done" ts
        some (grouped (.loop condition body (t.isReserved "while")) ts)
      else if t.isReserved "for" then do
        let (name, ts) ← match rest with
          | .word w :: ts => (w.literal?).map fun name => (name, ts)
          | _ => none
        let (words, ts) := match takeReserved "in" (dropNewlines ts) with
          | some ts =>
            let (words, ts) := takeWords ts
            (some words, ts)
          | none => (none, ts)
        let ts ← takeReserved "do" (dropNewlines (takeSeparator ts))
        let (body, ts) ← readSequence fuel ts
        let ts ← takeReserved "done" ts
        some (grouped (.each name words body) ts)
      else if t.isReserved "case" then do
        let (word, ts) ← match rest with
          | .word w :: ts => some (w, ts)
          | _ => none
        let ts ← takeReserved "in" (dropNewlines ts)
        let (body, ts) ← readBranches fuel word ts
        some (grouped body ts)
      else if t.closes then none
      else
        let (words, redirections, ts) := takeSimple ts
        let (assignments, words) := splitAssignments words
        if assignments.isEmpty && words.isEmpty && redirections.isEmpty then none
        else some (.simple assignments words redirections, ts)

/-- Reads a choice behind its first word. -/
def readChoice : Nat → List Token → Option (Script × List Token)
  | 0, _ => none
  | fuel + 1, ts => do
    let (condition, ts) ← readSequence fuel ts
    let ts ← takeReserved "then" ts
    let (yes, ts) ← readSequence fuel ts
    match takeReserved "elif" ts with
    | some ts => do
      let (no, ts) ← readChoice fuel ts
      some (.choice condition yes no, ts)
    | none =>
      match takeReserved "else" ts with
      | some ts => do
        let (no, ts) ← readSequence fuel ts
        let ts ← takeReserved "fi" ts
        some (.choice condition yes no, ts)
      | none => do
        let ts ← takeReserved "fi" ts
        some (.choice condition yes .nothing, ts)

/-- Reads branches up to the word that closes them. -/
def readBranches : Nat → Word → List Token → Option (Script × List Token)
  | 0, _, _ => none
  | fuel + 1, word, ts =>
    let ts := dropNewlines ts
    match takeReserved "esac" ts with
    | some ts => some (.nothing, ts)
    | none => do
      let (patterns, ts) ← takePatterns ts
      let (body, ts) ← readSequence fuel ts
      let ts := match ts with
        | .operator ";;" :: ts => ts
        | ts => ts
      let (otherwise, ts) ← readBranches fuel word ts
      some (.branch word patterns body otherwise, ts)

end

/-- Reads a script. Fails if it is not one. -/
def Script.read (s : List Char) : Option Script := do
  let ts ← tokens s
  let (script, rest) ← readSequence (8 * ts.length + 8) ts
  if rest.isEmpty then some script else none

end ModelCheck.Shell
