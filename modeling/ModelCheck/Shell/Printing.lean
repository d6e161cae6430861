import ModelCheck.Shell.State

/-!
# What echo and printf write

Both read escapes behind a backslash. An octal escape gives one byte, which need
not be a character.
-/

namespace ModelCheck.Shell

/-- Reads at most `most` octal digits after a value already read. -/
def octal : Nat → Nat → List Char → Nat × List Char
  | 0, value, s => (value, s)
  | _, value, [] => (value, [])
  | most + 1, value, c :: rest =>
    if '0' ≤ c ∧ c ≤ '7' then octal most (8 * value + (c.toNat - 48)) rest
    else (value, c :: rest)

/-- The escapes of one letter, with their bytes. -/
def letterEscapes : List (Char × UInt8) :=
  [('a', 7), ('b', 8), ('f', 12), ('n', 10), ('r', 13), ('t', 9), ('v', 11), ('\\', 92)]

/-- Reads what follows a backslash in an argument: the bytes, and the rest unless printing stops. An
octal escape begins with a zero. -/
def argumentEscape (s : List Char) : Text.Bytes × Option (List Char) :=
  match s with
  | [] => ([92], some [])
  | 'c' :: _ => ([], none)
  | '0' :: rest =>
    let (value, rest) := octal 3 0 rest
    ([UInt8.ofNat value], some rest)
  | c :: rest =>
    match letterEscapes.lookup c with
    | some b => ([b], some rest)
    | none => (92 :: bytes [c], some rest)

/-- Reads what follows a backslash in a format. -/
def formatEscape (s : List Char) : Text.Bytes × List Char :=
  match s with
  | [] => ([92], [])
  | c :: rest =>
    if '0' ≤ c ∧ c ≤ '7' then
      let (value, rest) := octal 3 0 s
      ([UInt8.ofNat value], rest)
    else
      match letterEscapes.lookup c with
      | some b => ([b], rest)
      | none => if c = '"' then ([34], rest) else (92 :: bytes [c], rest)

/-- An argument with its escapes carried out, and whether printing goes on. -/
def escaped : Nat → List Char → Text.Bytes × Bool
  | 0, _ => ([], true)
  | _, [] => ([], true)
  | fuel + 1, '\\' :: rest =>
    match argumentEscape rest with
    | (front, none) => (front, false)
    | (front, some rest) =>
      let (others, more) := escaped fuel rest
      (front ++ others, more)
  | fuel + 1, c :: rest =>
    let (others, more) := escaped fuel rest
    (bytes [c] ++ others, more)

/-- What echo writes: its arguments with a blank between each two, and the end of a line unless the
first one is `-n`. -/
def echo (arguments : List (List Char)) : Text.Bytes :=
  let (arguments, ending) : List (List Char) × Text.Bytes :=
    match arguments with
    | ['-', 'n'] :: rest => (rest, [])
    | rest => (rest, [10])
  let text := spaced arguments
  let (written, more) := escaped (text.length + 1) text
  if more then written ++ ending else written

/-- How a value is put into its place: the least width, and whether it is filled up on the right, or
with zeros. -/
structure Layout where
  width : Nat
  left : Bool
  zeros : Bool
  precision : Option Nat

/-- Reads a layout. -/
def readLayout (s : List Char) : Layout × List Char :=
  let isFlag (c : Char) : Bool := c = '-' || c = '0' || c = '+' || c = ' '
  let flags := s.takeWhile isFlag
  let s := s.dropWhile isFlag
  let width := (Text.readNat32? (s.takeWhile Char.isDigit)).getD 0
  let s := s.dropWhile Char.isDigit
  let (precision, s) := match s with
    | '.' :: s => (some ((Text.readNat32? (s.takeWhile Char.isDigit)).getD 0),
      s.dropWhile Char.isDigit)
    | s => (none, s)
  (⟨width, flags.contains '-', flags.contains '0', precision⟩, s)

/-- Puts a text into its place. -/
def Layout.fill (l : Layout) (number : Bool) (s : List Char) : List Char :=
  let missing := l.width - s.length
  if l.left then s ++ List.replicate missing ' '
  else if l.zeros && number then
    match s with
    | '-' :: digits => '-' :: (List.replicate missing '0' ++ digits)
    | digits => List.replicate missing '0' ++ digits
  else List.replicate missing ' ' ++ s

/-- Writes a format once: what is written, the arguments left over, and whether printing goes on. -/
def formatOnce : Nat → List Char → List (List Char) →
    Text.Bytes × List (List Char) × Bool
  | 0, _, arguments => ([], arguments, true)
  | _, [], arguments => ([], arguments, true)
  | fuel + 1, '\\' :: rest, arguments =>
    let (front, rest) := formatEscape rest
    let (others, more) := formatOnce fuel rest arguments
    (front ++ others, more)
  | fuel + 1, '%' :: rest, arguments =>
    let (layout, rest) := readLayout rest
    let argument := arguments.headD []
    match rest with
    | [] => ([37], arguments, true)
    | kind :: rest =>
      if kind = '%' then
        let (others, more) := formatOnce fuel rest arguments
        (37 :: others, more)
      else if kind = 'b' then
        let (front, goesOn) := escaped (argument.length + 1) argument
        if goesOn then
          let (others, more) := formatOnce fuel rest (arguments.drop 1)
          (front ++ others, more)
        else (front, [], false)
      else
        let text :=
          if kind = 'd' || kind = 'i' || kind = 'u' then
            layout.fill true (spellInt (numberOf argument))
          else if kind = 'x' then
            layout.fill true (Nat.toDigits 16 (numberOf argument).natAbs)
          else if kind = 'o' then
            layout.fill true (Nat.toDigits 8 (numberOf argument).natAbs)
          else if kind = 'c' then layout.fill false (argument.take 1)
          else layout.fill false (layout.precision.elim argument argument.take)
        let (others, more) := formatOnce fuel rest (arguments.drop 1)
        (bytes text ++ others, more)
  | fuel + 1, c :: rest, arguments =>
    let (others, more) := formatOnce fuel rest arguments
    (bytes [c] ++ others, more)

/-- Writes a format again and again until no argument is left. -/
def formatAll : Nat → List Char → List (List Char) → Text.Bytes
  | 0, _, _ => []
  | fuel + 1, format, arguments =>
    let (written, rest, more) := formatOnce (format.length + 1) format arguments
    if more && !rest.isEmpty && rest.length < arguments.length then
      written ++ formatAll fuel format rest
    else written

/-- What printf writes. -/
def formatted (format : List Char) (arguments : List (List Char)) : Text.Bytes :=
  formatAll (arguments.length + 1) format arguments

end ModelCheck.Shell
