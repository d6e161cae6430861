import ModelCheck.Snapshot

/-!
# Messages

A message is what stands between a start line and its end line. Its severity
decides first: errors and bugs of the checker are recorded as errors, except that
the header of a trace belongs to the error before it; warnings are recorded as
such. Any other message changes the snapshot by its code, and the lines that
report coverage are taken from it whatever its code is.
-/

namespace ModelCheck

/-- A message of the checker: its code and severity, and the lines directly inside it. -/
structure Message where
  code : Nat
  severity : Nat
  lines : List (List Char)
deriving DecidableEq, Repr

namespace Message

/-- What a message is, by severity and code. -/
inductive Kind where
  | traceHeader
  | error
  | warning
  | notice
deriving DecidableEq, Repr

/-- The code of the header of a trace. -/
def traceHeaderCode : Nat := 2121

/-- The kind of a message. Severity 1 is an error, 2 a bug of the checker and 3 a warning. -/
def kind (m : Message) : Kind :=
  if m.severity = 1 ∨ m.severity = 2 then
    if m.code = traceHeaderCode then .traceHeader else .error
  else if m.severity = 3 then .warning
  else .notice

/-- What a notice tells, by its code. -/
inductive Topic where
  | parsing
  | starting
  | mode
  | initialStates
  | checking
  | liveness
  | statistics
  | coverage
  | success
  | finished
  | other
deriving DecidableEq, Repr

/-- The topic of a code. -/
def Topic.ofCode (code : Nat) : Topic :=
  if code = 2220 then .parsing
  else if code = 2185 then .starting
  else if code = 2187 then .mode
  else if code = 2189 then .initialStates
  else if code = 2190 then .checking
  else if code = 2192 then .liveness
  else if code = 2199 ∨ code = 2200 then .statistics
  else if code = 2201 then .coverage
  else if code = 2193 then .success
  else if code = 2186 then .finished
  else .other

/-- The text of a message: its lines with a line feed between each two. -/
def text (m : Message) : List Char := List.intercalate ['\n'] m.lines

/-- The text without the blank characters around it. -/
def trimmedText (m : Message) : String := String.ofList (Text.trim m.text)

/-- Reads a clock text in parentheses at the front of a text, its digits unread. -/
def clock? (s : List Char) : Option (List Char) := do
  let s ← Text.after? ['('] s
  let shape := "0000-00-00 00:00:00".toList
  let clock := s.take shape.length
  let fits := clock.length = shape.length ∧
    (clock.zip shape).all fun (c, like) => if like = '0' then Text.isDigit c else c = like
  let _ ← Text.after? [')'] (s.drop shape.length)
  if fits then some clock else none

/-- The time at which the checker says that it started, by the clocks of its zone. -/
def startTime? (zone : Zone) (m : Message) : Option Moment :=
  ((Text.leftmost? clock? m.text).bind Moment.ofClockText?).bind zone.moment?

end Message

namespace Snapshot

/-- Adds a text on lines of its own to the message of the last error. -/
def extendLast (text : String) : List ReportedError → List ReportedError
  | [] => []
  | [e] => [{ e with message := e.message ++ "\n" ++ text }]
  | e :: rest => e :: extendLast text rest

/-- The snapshot after a notice on a topic, coverage lines apart. -/
def note (zone : Zone) (now : Moment) (m : Message) (s : Snapshot) : Snapshot :=
  match Message.Topic.ofCode m.code with
  | .parsing => { s with phase := .parsing }
  | .starting =>
    { s with
      phase := .starting
      startedAt := some ((m.startTime? zone).elim (.observed now) .reported) }
  | .mode => { s with mode := some m.trimmedText }
  | .initialStates => { s with phase := .initialStates }
  | .checking => { s with phase := .checking }
  | .liveness => { s with phase := .liveness }
  | .statistics => { s with progress := s.progress ++ (Statistics.parse? m.text).toList }
  | .coverage => { s with coverage := [] }
  | .success => { s with verdict := some (s.verdict.getD .success) }
  | .finished => { s with phase := .finished, finishedAt := some (.observed now) }
  | .other => s

/-- The snapshot after a message has been completed at the time `now`. -/
def apply (zone : Zone) (now : Moment) (m : Message) (s : Snapshot) : Snapshot :=
  match m.kind with
  | .traceHeader =>
    { s with errors := extendLast m.trimmedText s.errors, verdict := some .error }
  | .error =>
    { s with
      errors := s.errors ++ [⟨m.code, m.trimmedText, Location.find? m.text⟩]
      verdict := some .error }
  | .warning => { s with warnings := s.warnings ++ [m.trimmedText] }
  | .notice =>
    let s := s.note zone now m
    { s with coverage := s.coverage ++ m.lines.filterMap Coverage.parse? }

end Snapshot

end ModelCheck
