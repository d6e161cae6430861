/-!
# Words of the shell

A word is made of plain and quoted text and of things that are put in when the
word is used: parameters, the output of commands, and results of arithmetic. What
is put in outside double quotes is split at blanks into several fields.
-/

namespace ModelCheck.Shell

/-- A part of a word. -/
inductive Part where
  | text (content : List Char) (quoted : Bool)
  /-- A parameter, with what stands behind its name in braces. -/
  | parameter (name operation : List Char) (quoted : Bool)
  /-- The output of commands. -/
  | output (source : List Char) (quoted : Bool)
  | arithmetic (source : List Char) (quoted : Bool)
deriving DecidableEq, Repr

/-- A word. -/
abbrev Word := List Part

namespace Word

/-- Puts text before a word, joined with text of its kind. -/
def consText (content : List Char) (quoted : Bool) : Word → Word
  | .text more q :: rest =>
    if q = quoted then .text (content ++ more) q :: rest
    else .text content quoted :: .text more q :: rest
  | w => .text content quoted :: w

/-- The text of a word that is not quoted in any part. -/
def literal? : Word → Option (List Char)
  | [.text content false] => some content
  | _ => none

/-- The characters of a word and whether nothing in it is quoted, as the end of a text in place is
given. -/
def delimiter : Word → List Char × Bool
  | [] => ([], true)
  | .text content quoted :: rest =>
    let (more, plain) := delimiter rest
    (content ++ more, plain && !quoted)
  | _ :: rest => delimiter rest

end Word

/-! ### Reading words -/

/-- Blank within a line. -/
def isSpace (c : Char) : Bool := c = ' ' || c = '\t'

/-- Blank, or the end of a line: where words end and fields are split. -/
def isSeparator (c : Char) : Bool := isSpace c || c = '\n'

/-- Whether a character ends a word. -/
def endsWord (c : Char) : Bool :=
  isSeparator c || ['|', '&', ';', '<', '>', '(', ')'].contains c

/-- Whether a character may begin a name. -/
def beginsName (c : Char) : Bool := c.isAlpha || c = '_'

/-- Whether a character may stand in a name. -/
def inName (c : Char) : Bool := c.isAlphanum || c = '_'

/-- The parameters whose name is one special character. -/
def specialNames : List Char := ['@', '*', '#', '?', '$', '!', '-']

/-- Reads up to the bracket that closes `depth` brackets and the one already read. -/
def balanced (left right : Char) : Nat → List Char → Option (List Char × List Char)
  | _, [] => none
  | depth, c :: rest =>
    if c = right then
      match depth with
      | 0 => some ([], rest)
      | depth + 1 => (balanced left right depth rest).map fun (s, rest) => (c :: s, rest)
    else
      let depth := if c = left then depth + 1 else depth
      (balanced left right depth rest).map fun (s, rest) => (c :: s, rest)

/-- The name at the front of a text: a special character, digits, or a name. -/
def splitName (s : List Char) : List Char × List Char :=
  match s with
  | [] => ([], [])
  | c :: rest =>
    if specialNames.contains c then ([c], rest)
    else if c.isDigit then (s.takeWhile Char.isDigit, s.dropWhile Char.isDigit)
    else if beginsName c then (s.takeWhile inName, s.dropWhile inName)
    else ([], s)

/-- Splits what stands in braces into the name and the rest. `#` before a name asks for its
length. -/
def splitBraces (s : List Char) : List Char × List Char :=
  match s with
  | '#' :: c :: rest =>
    if inName c then ((c :: rest).takeWhile inName, ['#']) else (['#'], c :: rest)
  | _ => splitName s

/-- Reads what follows a dollar sign. -/
def dollar (quoted : Bool) (s : List Char) : Option (Part × List Char) :=
  match s with
  | '(' :: '(' :: rest =>
    (balanced '(' ')' 0 rest).bind fun
      | (source, ')' :: rest) => some (.arithmetic source quoted, rest)
      | _ => none
  | '(' :: rest =>
    (balanced '(' ')' 0 rest).map fun (source, rest) => (.output source quoted, rest)
  | '{' :: rest =>
    (balanced '{' '}' 0 rest).map fun (source, rest) =>
      let (name, operation) := splitBraces source
      (.parameter name operation quoted, rest)
  | c :: rest =>
    if specialNames.contains c || c.isDigit then some (.parameter [c] [] quoted, rest)
    else if beginsName c then
      some (.parameter (s.takeWhile inName) [] quoted, s.dropWhile inName)
    else some (.text ['$'] quoted, s)
  | [] => some (.text ['$'] quoted, s)

/-- Reads up to a closing backquote. -/
def backquoted (quoted : Bool) (s : List Char) : Option (Part × List Char) :=
  match s.dropWhile (· ≠ '`') with
  | [] => none
  | _ :: rest => some (.output (s.takeWhile (· ≠ '`')) quoted, rest)

/-- The characters before which a backslash counts within double quotes. -/
def escapable : List Char := ['$', '`', '"', '\\']

/-- Reads the inside of double quotes up to the closing character, or to the end if there is
none. -/
def quotedParts (closing : Option Char) : Nat → List Char → Option (Word × List Char)
  | 0, _ => none
  | fuel + 1, s =>
    match s with
    | [] => if closing.isNone then some ([], []) else none
    | '\\' :: '\n' :: rest => quotedParts closing fuel rest
    | '\\' :: c :: rest =>
      let content := if escapable.contains c then [c] else ['\\', c]
      (quotedParts closing fuel rest).map fun (w, rest) => (w.consText content true, rest)
    | '$' :: rest =>
      (dollar true rest).bind fun (part, rest) =>
        (quotedParts closing fuel rest).map fun (w, rest) => (part :: w, rest)
    | '`' :: rest =>
      (backquoted true rest).bind fun (part, rest) =>
        (quotedParts closing fuel rest).map fun (w, rest) => (part :: w, rest)
    | c :: rest =>
      if closing = some c then some ([], rest)
      else (quotedParts closing fuel rest).map fun (w, rest) => (w.consText [c] true, rest)

/-- Double quotes with nothing in them are an empty text. -/
def orEmpty (w : Word) : Word := if w.isEmpty then [.text [] true] else w

/-- Reads a word up to a character that ends it. -/
def wordParts : Nat → List Char → Option (Word × List Char)
  | 0, _ => none
  | fuel + 1, s =>
    match s with
    | [] => some ([], [])
    | '\'' :: rest =>
      match rest.dropWhile (· ≠ '\'') with
      | [] => none
      | _ :: after =>
        (wordParts fuel after).map fun (w, after) =>
          (w.consText (rest.takeWhile (· ≠ '\'')) true, after)
    | '"' :: rest =>
      (quotedParts (some '"') fuel rest).bind fun (inner, rest) =>
        (wordParts fuel rest).map fun (w, rest) => (orEmpty inner ++ w, rest)
    | '\\' :: '\n' :: rest => wordParts fuel rest
    | '\\' :: c :: rest => (wordParts fuel rest).map fun (w, rest) => (w.consText [c] true, rest)
    | '$' :: rest =>
      (dollar false rest).bind fun (part, rest) =>
        (wordParts fuel rest).map fun (w, rest) => (part :: w, rest)
    | '`' :: rest =>
      (backquoted false rest).bind fun (part, rest) =>
        (wordParts fuel rest).map fun (w, rest) => (part :: w, rest)
    | c :: rest =>
      if endsWord c then some ([], s)
      else (wordParts fuel rest).map fun (w, rest) => (w.consText [c] false, rest)

/-- Reads a word at the front of a text. -/
def readWord (s : List Char) : Option (Word × List Char) := wordParts (s.length + 1) s

/-- A whole text read as the inside of double quotes. -/
def ofQuoted (s : List Char) : Option Word := (quotedParts none (s.length + 1) s).map (·.1)

end ModelCheck.Shell
