import ModelCheck.Diagnostic.Collection
import ModelCheck.Text.Number

/-!
# Diagnostics as lines of JSON

A collection is written as one JSON object per file, each on a line of its own.
Keys stand in a fixed order and without blanks between them. In strings the
quotation mark, the backslash and the control characters below U+0020 are
escaped, so a line never holds a line feed of its own.
-/

namespace ModelCheck.Jsonl

/-- The hexadecimal digit of a value below 16, in small letters. -/
def hexDigit (n : Nat) : Char := (Nat.toDigits 16 n).headD '0'

/-- How a character is written inside a JSON string. -/
def escape (c : Char) : List Char :=
  if c = '"' then ['\\', '"']
  else if c = '\\' then ['\\', '\\']
  else if c = '\n' then ['\\', 'n']
  else if c = '\r' then ['\\', 'r']
  else if c = '\t' then ['\\', 't']
  else if c = '\x08' then ['\\', 'b']
  else if c = '\x0c' then ['\\', 'f']
  else if c.toNat < 0x20 then
    ['\\', 'u', '0', '0', hexDigit (c.toNat / 16), hexDigit (c.toNat % 16)]
  else [c]

/-- A JSON string. -/
def quote (s : String) : List Char := '"' :: (s.toList.flatMap escape ++ ['"'])

/-- Texts with a comma between each two. -/
def commaSeparated : List (List Char) → List Char
  | [] => []
  | [only] => only
  | first :: rest => first ++ ',' :: commaSeparated rest

/-- A JSON object with the given keys, in that order. -/
def object (fields : List (String × List Char)) : List Char :=
  '\x7b' :: (commaSeparated (fields.map fun f => quote f.1 ++ ':' :: f.2) ++ ['\x7d'])

/-- A JSON array. -/
def array (items : List (List Char)) : List Char := '[' :: (commaSeparated items ++ [']'])

/-- A position as an object. -/
def position (p : Position) : List Char :=
  object [("line", Text.decimal p.line), ("column", Text.decimal p.column)]

/-- A range as an object. -/
def range (r : Range) : List Char :=
  object [("start", position r.start), ("end", position r.stop)]

/-- A diagnostic as an object. -/
def diagnostic (d : Diagnostic) : List Char :=
  object [("range", range d.range), ("severity", quote d.severity.word),
    ("message", quote d.message)]

/-- The line of a file, with its line feed. -/
def line (entry : Path × List Diagnostic) : List Char :=
  object [("file", quote entry.1.spelling), ("diagnostics", array (entry.2.map diagnostic))]
    ++ ['\n']

/-- All lines of a collection, in path order. -/
def encode (c : Collection) : String := String.ofList (c.files.flatMap line)

end ModelCheck.Jsonl
