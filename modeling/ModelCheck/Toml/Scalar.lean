import ModelCheck.Text.Number

/-!
# TOML scalars

Readers for strings, numbers, booleans and times. A reader takes what it can from
the front of a text, or fails.
-/

namespace ModelCheck.Toml

/-- A reader: it takes something from the front of a text and leaves the rest, or fails. -/
abbrev Scanner := StateT (List Char) Option

namespace Scanner

/-- The next character, which stays. -/
def peek? : Scanner (Option Char) := do pure (← get).head?

/-- Takes the next character. -/
def next : Scanner Char := do
  match ← get with
  | [] => failure
  | c :: rest => set rest; pure c

/-- Takes the next character, which must satisfy `p`. -/
def satisfy (p : Char → Bool) : Scanner Char := do
  let c ← next
  if p c then pure c else failure

/-- Takes a character that must come next. -/
def char (c : Char) : Scanner Unit := do let _ ← satisfy (· = c)

/-- Takes a literal that must come next. -/
def literal (s : String) : Scanner Unit := s.toList.forM char

/-- Takes characters as long as they satisfy `p`. -/
def takeWhile (p : Char → Bool) : Scanner (List Char) := do
  let s ← get
  set (s.dropWhile p)
  pure (s.takeWhile p)

/-- Takes one or more characters that satisfy `p`. -/
def takeWhile1 (p : Char → Bool) : Scanner (List Char) := do
  let s ← takeWhile p
  if s.isEmpty then failure else pure s

/-- Whether a text is at its end. -/
def atEnd : Scanner Bool := do pure (← get).isEmpty

end Scanner

open Scanner

/-! ### Blanks and comments -/

/-- Blank within a line. -/
def isWhitespace (c : Char) : Bool := c = ' ' || c = '\t'

/-- Passes over blanks within a line. -/
def whitespace : Scanner Unit := do let _ ← takeWhile isWhitespace

/-- Takes a line ending: a line feed, or a carriage return with one. -/
def newline : Scanner Unit := char '\n' <|> literal "\r\n"

/-- Whether a character may stand in text that is not ASCII control: a tab, or anything from the
space on except the delete character. -/
def isPrintable (c : Char) : Bool := c = '\t' || (' ' ≤ c && c ≠ '\x7f')

/-- Takes a comment. -/
def comment : Scanner Unit := do
  char '#'
  let _ ← takeWhile isPrintable

/-- Takes the end of a line: blanks, a comment, and a line ending or the end of the document. -/
def lineEnd : Scanner Unit := do
  whitespace
  let _ ← optional comment
  if ← atEnd then pure () else newline

/-- Passes over blanks, comments and line endings. -/
def trivia : Nat → Scanner Unit
  | 0 => pure ()
  | fuel + 1 => do
    whitespace
    match ← peek? with
    | some '#' => do comment; newline; trivia fuel
    | some '\n' => do newline; trivia fuel
    | some '\r' => do newline; trivia fuel
    | _ => pure ()

/-! ### Strings -/

/-- The value of a hexadecimal digit. -/
def hexValue? (c : Char) : Option Nat :=
  if '0' ≤ c ∧ c ≤ '9' then some (c.toNat - 48)
  else if 'a' ≤ c ∧ c ≤ 'f' then some (c.toNat - 87)
  else if 'A' ≤ c ∧ c ≤ 'F' then some (c.toNat - 55)
  else none

/-- Takes a character given by a number of hexadecimal digits. -/
def hexChar (digits : Nat) : Scanner Char := do
  let s ← get
  if s.length < digits then failure
  set (s.drop digits)
  let value ← (s.take digits).foldlM (fun v c => do pure (16 * v + (← hexValue? c))) 0
  if h : value.isValidChar then pure (Char.ofNatAux value h) else failure

/-- Takes what follows the backslash of an escape. -/
def escaped : Scanner Char := do
  match ← next with
  | 'b' => pure '\x08'
  | 't' => pure '\t'
  | 'n' => pure '\n'
  | 'f' => pure '\x0c'
  | 'r' => pure '\r'
  | '"' => pure '"'
  | '\\' => pure '\\'
  | 'u' => hexChar 4
  | 'U' => hexChar 8
  | _ => failure

/-- Takes the rest of a string in double quotes. -/
def basicRest : Nat → Scanner (List Char)
  | 0 => failure
  | fuel + 1 => do
    match ← next with
    | '"' => pure []
    | '\\' => do
      let c ← escaped
      pure (c :: (← basicRest fuel))
    | c => if isPrintable c then do pure (c :: (← basicRest fuel)) else failure

/-- Takes a string in double quotes on one line. -/
def basicString : Scanner String := do
  char '"'
  pure (String.ofList (← basicRest (← get).length))

/-- Takes a string in single quotes on one line. -/
def literalString : Scanner String := do
  char '\''
  let s ← takeWhile fun c => isPrintable c && c ≠ '\''
  char '\''
  pure (String.ofList s)

/-- Takes quotes inside a string with triple quotes: one or two belong to the string; three end it,
after up to two that belong to it. Says which, and what belongs to the string. -/
def quotes (quote : Char) : Scanner (Bool × List Char) := do
  let s ← takeWhile1 (· = quote)
  if s.length < 3 then pure (false, s)
  else if s.length ≤ 5 then pure (true, s.drop 3)
  else failure

/-- Takes the rest of a backslash at the end of a line: the line ending, and all blanks and line
endings after it. -/
def continuation (fuel : Nat) : Scanner Unit := do
  whitespace
  newline
  blanks fuel
where
  blanks : Nat → Scanner Unit
    | 0 => pure ()
    | fuel + 1 => do
      whitespace
      match ← optional newline with
      | some _ => blanks fuel
      | none => pure ()

/-- Takes the rest of a string in triple quotes. Escapes have a meaning only if `escapes` says
so. -/
def multilineRest (quote : Char) (escapes : Bool) : Nat → Scanner (List Char)
  | 0 => failure
  | fuel + 1 => do
    let c ← (do pure (← peek?)) >>= fun c => c.elim failure pure
    if c = quote then
      let (ends, s) ← quotes quote
      if ends then pure s else do pure (s ++ (← multilineRest quote escapes fuel))
    else if c = '\n' || c = '\r' then
      newline
      pure ('\n' :: (← multilineRest quote escapes fuel))
    else if c = '\\' && escapes then
      let _ ← next
      match ← optional (continuation fuel) with
      | some _ => multilineRest quote escapes fuel
      | none =>
        let c ← escaped
        pure (c :: (← multilineRest quote escapes fuel))
    else if isPrintable c then
      let _ ← next
      pure (c :: (← multilineRest quote escapes fuel))
    else failure

/-- Takes a string in triple quotes. A line ending just after the opening quotes does not count. -/
def multilineString (quote : Char) (escapes : Bool) : Scanner String := do
  char quote
  char quote
  char quote
  let _ ← optional newline
  pure (String.ofList (← multilineRest quote escapes ((← get).length + 1)))

/-- Takes a string of any form. -/
def string : Scanner String :=
  multilineString '"' true <|> basicString <|> multilineString '\'' false <|> literalString

/-! ### Numbers -/

/-- Takes digits, between which single low lines may stand, and leaves these out. -/
def digits (isDigit : Char → Bool) : Scanner (List Char) := do
  let first ← satisfy isDigit
  pure (first :: (← more (← get).length))
where
  more : Nat → Scanner (List Char)
    | 0 => pure []
    | fuel + 1 => do
      match ← peek? with
      | some '_' => do
        let _ ← next
        let c ← satisfy isDigit
        pure (c :: (← more fuel))
      | some c =>
        if isDigit c then do
          let _ ← next
          pure (c :: (← more fuel))
        else pure []
      | none => pure []

/-- Takes a sign and says whether it is a minus. -/
def sign : Scanner Bool := do
  match ← peek? with
  | some '-' => do let _ ← next; pure true
  | some '+' => do let _ ← next; pure false
  | _ => pure false

/-- Takes the digits of a decimal integer, without leading zeros. -/
def decimalDigits : Scanner (List Char) := do
  if (← peek?) = some '0' then
    let _ ← next
    pure ['0']
  else digits Text.isAsciiDigit

/-- An integer, if it fits into 64 bits. -/
def fitting (i : Int) : Scanner Int :=
  if -9223372036854775808 ≤ i ∧ i ≤ 9223372036854775807 then pure i else failure

/-- Takes a decimal integer. -/
def decimalInteger : Scanner Int := do
  let negative ← sign
  let value := ((Text.readDigits (← decimalDigits) 0).getD 0 : Nat)
  fitting (if negative then -value else value)

/-- Takes an integer in another base, after the letter that marks it. -/
def basedInteger (mark : String) (base : Nat) : Scanner Int := do
  literal mark
  let s ← digits fun c => (hexValue? c).elim false (· < base)
  fitting (s.foldl (fun v c => base * v + (hexValue? c).getD 0) 0 : Nat)

/-- Takes an integer. -/
def integer : Scanner Int :=
  basedInteger "0x" 16 <|> basedInteger "0o" 8 <|> basedInteger "0b" 2 <|> decimalInteger

/-- Takes an exponent. -/
def exponent : Scanner (Bool × List Char) := do
  let _ ← satisfy fun c => c = 'e' || c = 'E'
  let negative ← sign
  pure (negative, ← digits Text.isAsciiDigit)

/-- Takes a fraction. -/
def fraction : Scanner (List Char) := do
  char '.'
  digits Text.isAsciiDigit

/-- Whether a number with the given digits, times a power of ten, rounds to infinity as a
floating-point number of 64 bits. -/
def isInfinite (digits : List Char) (power : Int) : Bool :=
  let mantissa := (Text.readDigits digits 0).getD 0
  let magnitude : Int := (Text.decimal mantissa).length + power
  if mantissa = 0 || magnitude < 300 then false
  else if 320 < magnitude then true
  else
    let bound := Nat.pow 2 1024 - Nat.pow 2 970
    if 0 ≤ power then decide (bound ≤ mantissa * Nat.pow 10 power.toNat)
    else decide (bound * Nat.pow 10 (-power).toNat ≤ mantissa)

/-- Takes a float, as it is written without low lines. -/
def float : Scanner String := do
  let negative ← sign
  let whole ← decimalDigits
  let (part, power) ←
    (do let e ← exponent; pure ([], some e)) <|>
      (do let part ← fraction; pure (part, ← optional exponent))
  let magnitude : Nat := power.elim 0 fun p => (Text.readDigits p.2 0).getD 0
  let power10 : Int := if (power.map (·.1)) = some true then -magnitude else magnitude
  if !negative && isInfinite (whole ++ part) (power10 - part.length) then failure
  pure ((if negative then "-" else "") ++ String.ofList whole ++ "." ++ String.ofList part ++ "e"
    ++ toString power10)

/-- Takes infinity or not-a-number. -/
def specialFloat : Scanner String := do
  let negative ← sign
  let word ← (do literal "inf"; pure "inf") <|> (do literal "nan"; pure "nan")
  pure (if negative then "-" ++ word else word)

/-- Takes a boolean. -/
def boolean : Scanner Bool := (do literal "true"; pure true) <|> (do literal "false"; pure false)

/-! ### Times -/

/-- Takes a number of exactly `width` digits between two bounds. -/
def field (width low high : Nat) : Scanner Nat := do
  let s ← get
  if s.length < width then failure
  let value ← Text.readDigits (s.take width) 0
  if low ≤ value ∧ value ≤ high then do
    set (s.drop width)
    pure value
  else failure

/-- Takes a date. -/
def date : Scanner Unit := do
  let year ← field 4 0 9999
  char '-'
  let month ← field 2 1 12
  char '-'
  let _ ← field 2 1 (daysIn year month)
where
  daysIn (year month : Nat) : Nat :=
    let leap := year % 4 = 0 && (year % 100 ≠ 0 || year % 400 = 0)
    if month = 2 then (if leap then 29 else 28)
    else if month = 4 || month = 6 || month = 9 || month = 11 then 30
    else 31

/-- Takes a time of day. -/
def timeOfDay : Scanner Unit := do
  let _ ← field 2 0 23
  char ':'
  let _ ← field 2 0 59
  char ':'
  let _ ← field 2 0 60
  let _ ← optional (do char '.'; takeWhile1 Text.isAsciiDigit)

/-- Takes the offset of a time zone. -/
def offset : Scanner Unit := do
  let c ← satisfy fun c => c = 'Z' || c = 'z' || c = '+' || c = '-'
  if c = 'Z' || c = 'z' then pure ()
  else
    let _ ← field 2 0 23
    char ':'
    let _ ← field 2 0 59

/-- Takes a date, a time of day, or both, as they are written. -/
def time : Scanner String := do
  let before ← get
  (do
    date
    let _ ← optional do
      let _ ← satisfy fun c => c = 'T' || c = 't' || c = ' '
      timeOfDay
      optional offset) <|> timeOfDay
  let after ← get
  pure (String.ofList (before.take (before.length - after.length)))

end ModelCheck.Toml
