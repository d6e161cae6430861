import ModelCheck.Shell.Word

/-!
# Tokens of the shell

A script is a sequence of words, operators and redirections. A text in place
stands on the lines after the one that asks for it, and is moved to where it was
asked for.
-/

namespace ModelCheck.Shell

/-- What a redirection does, apart from its word. -/
inductive RedirectionKind where
  | read
  | write
  | append
  | duplicate
deriving DecidableEq, Repr

/-- A token. -/
inductive Token where
  | word (w : Word)
  | operator (text : String)
  | redirection (descriptor : Nat) (kind : RedirectionKind)
  /-- A text in place, once it has been found. -/
  | inPlace (descriptor : Nat) (content : Word)
  /-- The end of a line, with the texts in place that follow it. -/
  | newline (inPlace : List Word)
deriving DecidableEq, Repr

/-- The operators, the longer before their beginnings. -/
def operators : List String := ["&&", "||", ";;", "&", "|", ";", "(", ")"]

/-- The redirections by their signs, the longer before their beginnings, with the descriptor that
each one means by itself. -/
def redirections : List (String × Nat × RedirectionKind) :=
  [(">>", 1, .append), (">&", 1, .duplicate), (">|", 1, .write), (">", 1, .write),
   ("<&", 0, .duplicate), ("<", 0, .read)]

/-- What follows a text at the front of another. -/
def afterText? (t : String) (s : List Char) : Option (List Char) :=
  if t.toList.isPrefixOf s then some (s.drop t.length) else none

/-- A text in place that is asked for: the line that ends it, whether things are put into it, and
whether tabs at the start of its lines are dropped. -/
structure Wanted where
  ending : List Char
  expands : Bool
  dropsTabs : Bool
deriving DecidableEq, Repr

/-- The lines of a text in place, and the text after the line that ends it. -/
def splitLines (w : Wanted) : Nat → List Char → List Char × List Char
  | 0, s => ([], s)
  | fuel + 1, s =>
    if s.isEmpty then ([], [])
    else
      let given := s.takeWhile (· ≠ '\n')
      let line := if w.dropsTabs then given.dropWhile (· = '\t') else given
      let rest := (s.dropWhile (· ≠ '\n')).drop 1
      if line = w.ending then ([], rest)
      else
        let (more, rest) := splitLines w fuel rest
        (line ++ '\n' :: more, rest)

/-- Reads the texts in place that are asked for. -/
def readInPlace : List Wanted → List Char → Option (List Word × List Char)
  | [], s => some ([], s)
  | w :: rest, s => do
    let (content, s) := splitLines w (s.length + 1) s
    let word ← if w.expands then ofQuoted content else some [.text content true]
    let (others, s) ← readInPlace rest s
    pure (word :: others, s)

/-- The descriptor written before a redirection, and the rest. -/
def splitDescriptor (s : List Char) : Option Nat × List Char :=
  let digits := s.takeWhile Char.isDigit
  let rest := s.dropWhile Char.isDigit
  if digits.isEmpty then (none, s)
  else
    match rest.head? with
    | some '<' => ((String.ofList digits).toNat?, rest)
    | some '>' => ((String.ofList digits).toNat?, rest)
    | _ => (none, s)

/-- Reads the tokens of a text. `wanted` are the texts in place that were asked for on this line. -/
def scan : Nat → List Wanted → List Char → Option (List Token)
  | 0, _, _ => none
  | fuel + 1, wanted, s =>
    match s with
    | [] => some []
    | '\n' :: rest => do
      let (inPlace, rest) ← readInPlace wanted rest
      pure (.newline inPlace :: (← scan fuel [] rest))
    | '\\' :: '\n' :: rest => scan fuel wanted rest
    | '#' :: rest => scan fuel wanted (rest.dropWhile (· ≠ '\n'))
    | c :: rest =>
      if isSpace c then scan fuel wanted rest
      else
        let (descriptor, behind) := splitDescriptor s
        match afterText? "<<" behind with
        | some behind => do
          let dropsTabs := behind.head? = some '-'
          let behind := if dropsTabs then behind.drop 1 else behind
          let (word, behind) ← readWord (behind.dropWhile isSpace)
          let (ending, expands) := word.delimiter
          let tokens ← scan fuel (wanted ++ [⟨ending, expands, dropsTabs⟩]) behind
          pure (.inPlace (descriptor.getD 0) [] :: tokens)
        | none =>
          match redirections.findSome? fun (sign, usual, kind) =>
              (afterText? sign behind).map fun rest => (usual, kind, rest) with
          | some (usual, kind, rest) => do
            pure (.redirection (descriptor.getD usual) kind :: (← scan fuel wanted rest))
          | none =>
            match operators.findSome? fun t => (afterText? t s).map fun rest => (t, rest) with
            | some (t, rest) => do pure (.operator t :: (← scan fuel wanted rest))
            | none => do
              let (word, rest) ← readWord s
              pure (.word word :: (← scan fuel wanted rest))

/-- Moves the texts in place to where they were asked for, from the last token to the first. The
list holds those still to be placed, the last one first. -/
def place : List Token → List Token × List Word
  | [] => ([], [])
  | t :: rest =>
    let (tokens, pending) := place rest
    match t with
    | .newline inPlace => (.newline [] :: tokens, inPlace.reverse)
    | .inPlace descriptor content =>
      match pending with
      | [] => (.inPlace descriptor content :: tokens, [])
      | found :: pending => (.inPlace descriptor found :: tokens, pending)
    | t => (t :: tokens, pending)

/-- The tokens of a script. -/
def tokens (s : List Char) : Option (List Token) :=
  (scan (s.length + 2) [] (s ++ ['\n'])).map fun ts => (place ts).1

end ModelCheck.Shell
