import ModelCheck.Host
import ModelCheck.Session.Input

/-!
# The interactive session

A session reads lines and carries them out one by one, while checks go on beside
it. An interrupt stops the check in progress, and ends a session without one. At
its end a session stops a check in progress and waits for it.
-/

namespace ModelCheck

/-- A session with its host. -/
structure Session where
  host : Host
  /-- Whether no more lines are carried out. -/
  closed : Bool

namespace Session

/-- What a session tells about its lines. -/
def help : List String :=
  ["commands:",
   "  run            check the open specification",
   "  stop           stop the running check",
   "  display        show the latest results",
   "  open <file>    make <file> the active document",
   "  help           show this text",
   "  quit           stop any running check and exit"]

/-- Begins a session, perhaps with a document. -/
def start (host : Host) (file : Option Path) : Session :=
  let host := file.elim host host.openDocument
  ⟨host.print help, false⟩

/-- The line that tells of an opened document. -/
def openedLine (path : Path) : String :=
  "opened " ++ path.spelling ++ " (" ++ (Document.ofPath path).language.id ++ ")"

/-- Carries out what a line asks for. A check goes on beside the session; any other command is
carried out before the next line is read. -/
def perform (input : Input) (s : Session) : Session :=
  let after (h : Host) : Session := { s with host := h }
  match input with
  | .command c => after (s.host.request (.command c)).2.settle
  | .open path => after ((s.host.openDocument path).print [openedLine path])
  | .help => after (s.host.print help)
  | .quit => { s with closed := true }
  | .empty => s

/-- Takes a line. -/
def line (text : String) (s : Session) : Session :=
  if s.closed then s
  else
    match Input.parse text with
    | .ok input => s.perform input
    | .error e => { s with host := s.host.print [e.message] }

/-- Takes an interrupt. -/
def interrupt (s : Session) : Session :=
  if s.closed then s
  else if s.host.system.controller.isRunning then { s with host := s.host.stop.2 }
  else { s with closed := true }

/-- Ends the session. -/
def finish (s : Session) : Host :=
  if s.host.system.controller.isRunning then (s.host.stop.2).waitUntil Host.isIdle else s.host

end Session

end ModelCheck
