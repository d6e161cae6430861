import ModelCheck.Text.Blank
import ModelCheck.Text.Number
import ModelCheck.Text.Scan

/-!
# Frames

In tool mode the checker puts each message between a start line, which gives the
message's code and severity, and an end line, which repeats the code. Every other
line is text. Codes and severities are below `2 ^ 32`; a line whose number is
larger, or written in digits other than ASCII, is text as well.
-/

namespace ModelCheck

/-- A line of tool output, by its part in the framing. -/
inductive Frame where
  | start (code severity : Nat)
  | stop (code : Nat)
  | text (content : List Char)
deriving DecidableEq, Repr

namespace Frame

/-- What a start line begins with. -/
def startMark : List Char := "@!@!@STARTMSG ".toList

/-- What an end line begins with. -/
def stopMark : List Char := "@!@!@ENDMSG ".toList

/-- What start and end lines end with. -/
def closeMark : List Char := " @!@!@".toList

/-- A line without the carriage returns and line feeds at its end. -/
def stripEnding (line : List Char) : List Char :=
  Text.dropEndWhile (fun c => c = '\r' || c = '\n') line

/-- Reads an ASCII number below `2 ^ 32` at the front of a text. -/
def code? (s : List Char) : Option (Nat × List Char) := do
  let (digits, rest) ← Text.run? Text.isAsciiDigit s
  pure (← Text.readNat32? digits, rest)

/-- Reads a start line. -/
def start? (s : List Char) : Option Frame := do
  let s ← Text.after? startMark s
  let (code, s) ← code? s
  let s ← Text.after? [':'] s
  let (severity, s) ← code? s
  if s = closeMark then some (.start code severity) else none

/-- Reads an end line. -/
def stop? (s : List Char) : Option Frame := do
  let s ← Text.after? stopMark s
  let (code, s) ← code? s
  if s = closeMark then some (.stop code) else none

/-- The frame that a line is. -/
def classify (line : List Char) : Frame :=
  let s := stripEnding line
  ((start? s).or (stop? s)).getD (.text s)

/-- The line that a frame is written as, without a line ending. -/
def render : Frame → List Char
  | .start code severity =>
    startMark ++ Text.decimal code ++ ':' :: (Text.decimal severity ++ closeMark)
  | .stop code => stopMark ++ Text.decimal code ++ closeMark
  | .text content => content

end Frame

end ModelCheck
