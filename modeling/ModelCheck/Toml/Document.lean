import ModelCheck.Toml.Scalar
import ModelCheck.Toml.Value

/-!
# TOML documents

A document is lines: a key with its value, a header, or nothing. Headers say to
which table the keys below them belong. Values may be nested, but not too deeply.
-/

namespace ModelCheck.Toml

open Scanner

/-- How deeply values may be nested, and how many parts a key may have, plus one. -/
def depthLimit : Nat := 80

/-- Whether a character may stand in a key without quotes. -/
def isBareKey (c : Char) : Bool :=
  ('A' ≤ c && c ≤ 'Z') || ('a' ≤ c && c ≤ 'z') || Text.isAsciiDigit c || c = '_' || c = '-'

/-- Takes one part of a key. -/
def simpleKey : Scanner String :=
  basicString <|> literalString <|> (String.ofList <$> takeWhile1 isBareKey)

/-- Takes the parts of a dotted key, at most `limit` of them. -/
def keyParts : Nat → Scanner (List String)
  | 0 => failure
  | limit + 1 => do
    whitespace
    let first ← simpleKey
    whitespace
    if (← peek?) = some '.' then
      let _ ← next
      pure (first :: (← keyParts limit))
    else pure [first]

/-- Takes a key: the parts in front of the last one, and the last one. -/
def key : Scanner (List String × String) := do
  let parts ← keyParts (depthLimit - 1)
  match parts.getLast? with
  | some last => pure (parts.dropLast, last)
  | none => failure

/-- Takes the rest of an array. -/
def elements (value : Scanner Value) : Nat → Scanner (List Value)
  | 0 => failure
  | fuel + 1 => do
    trivia (← get).length
    if (← peek?) = some ']' then
      let _ ← next
      pure []
    else
      let v ← value
      trivia (← get).length
      match ← next with
      | ',' => pure (v :: (← elements value fuel))
      | ']' => pure [v]
      | _ => failure

/-- Takes the keys and values of an inline table up to its closing brace. -/
def pairs (value : Scanner Value) : Nat → Entries → Scanner Entries
  | 0, _ => failure
  | fuel + 1, t => do
    let (path, last) ← key
    char '='
    whitespace
    let v ← value
    whitespace
    let t ← Entries.add? path last v .inline t
    match ← next with
    | ',' => pairs value fuel t
    | '\x7d' => pure t
    | _ => failure

/-- Takes a value that is nested at most `depth` deep. -/
def value : Nat → Scanner Value
  | 0 => failure
  | depth + 1 => do
    match ← peek? with
    | some '[' =>
      let _ ← next
      if depth = 0 then failure
      pure (.array (← elements (value depth) ((← get).length + 1)))
    | some '\x7b' =>
      let _ ← next
      if depth = 0 then failure
      whitespace
      if (← peek?) = some '\x7d' then
        let _ ← next
        pure (.table .inline [])
      else pure (.table .inline (← pairs (value depth) ((← get).length + 1) []))
    | _ =>
      (Value.string <$> string) <|> (Value.time <$> time) <|> (Value.float <$> float)
        <|> (Value.float <$> specialFloat) <|> (Value.integer <$> integer)
        <|> (Value.boolean <$> boolean)

/-- Takes a key with its value to the end of the line. -/
def keyValue : Scanner (List String × String × Value) := do
  let (path, last) ← key
  char '='
  whitespace
  let v ← value depthLimit
  lineEnd
  pure (path, last, v)

/-- Takes a header to the end of the line. Says whether it has double brackets. -/
def header : Scanner (Bool × List String × String) := do
  char '['
  let double ← optional (char '[')
  let (path, last) ← key
  char ']'
  if double.isSome then char ']'
  lineEnd
  pure (double.isSome, path, last)

/-- A document while it is read: its table, and the keys that lead to the table at hand. -/
structure Draft where
  entries : Entries
  current : List String

namespace Draft

/-- Turns to the table of a header. -/
def open? (double : Bool) (path : List String) (last : String) (d : Draft) : Option Draft := do
  let change := fun (_ : TableKind) t =>
    if double then Entries.openElement? last t else Entries.openTable? last t
  pure ⟨← Entries.descend? false change path .header d.entries, path ++ [last]⟩

/-- Adds a key with its value to the table at hand. -/
def add? (path : List String) (last : String) (v : Value) (d : Draft) : Option Draft := do
  let change := fun kind t => Entries.add? path last v kind t
  pure { d with entries := ← Entries.descend? false change d.current .header d.entries }

end Draft

/-- Takes the lines of a document. -/
def expressions : Nat → Draft → Scanner Draft
  | 0, _ => failure
  | fuel + 1, d => do
    whitespace
    match ← peek? with
    | none => pure d
    | some '\n' => do newline; expressions fuel d
    | some '\r' => do newline; expressions fuel d
    | some '#' => do lineEnd; expressions fuel d
    | some '[' => do
      let (double, path, last) ← header
      expressions fuel (← d.open? double path last)
    | some _ => do
      let (path, last, v) ← keyValue
      expressions fuel (← d.add? path last v)

/-- The mark that may stand at the very start of a document. -/
def byteOrderMark : Char := '\uFEFF'

/-- Reads a document. -/
def parse? (text : String) : Option Entries :=
  let s := text.toList
  let s := if s.head? = some byteOrderMark then s.drop 1 else s
  ((expressions (s.length + 1) ⟨[], []⟩).run s).map (·.1.entries)

end ModelCheck.Toml
