import ModelCheck.Diagnostic.Collection
import ModelCheck.Frame
import ModelCheck.Message

/-!
# The output of a run

Tool output is taken line by line. Messages may be nested: text belongs to the
innermost open message, and an end line closes that one whatever code it gives.
Each completed message is applied to the snapshot and delivers it. Text outside
all messages goes to a tail of bounded length. When the output ends, the messages
still open are completed from the innermost outwards.
-/

namespace ModelCheck

/-- The state of reading a run's output: the snapshot so far, the open messages from the innermost
outwards, how many lines of text outside messages are kept, and the zone in which times are told. -/
structure Output where
  snapshot : Snapshot
  openMessages : List Message
  tailLimit : Nat
  zone : Zone

namespace Output

/-- The number of lines of text outside messages that are kept unless it is chosen otherwise. -/
def defaultTailLimit : Nat := 200

/-- The state before anything has been read. -/
def start (file : Path) (tailLimit : Nat := defaultTailLimit) (zone : Zone := .utc) : Output :=
  ⟨.initial file, [], tailLimit, zone⟩

/-- Adds a line to a queue with room for `limit` lines. A full one gives up its first line, and one
without any room stays as it is. -/
def enqueue (limit : Nat) (queue : List String) (line : String) : List String :=
  if limit = 0 then queue
  else (if queue.length = limit then queue.tail else queue) ++ [line]

/-- Applies a completed message. -/
def apply (now : Moment) (m : Message) (o : Output) : Output :=
  { o with snapshot := o.snapshot.apply o.zone now m }

/-- Takes one line, with or without its ending. The snapshot is delivered if the line completes a
message. -/
def pushLine (now : Moment) (line : List Char) (o : Output) : Output × Option Snapshot :=
  match Frame.classify line with
  | .start code severity =>
    ({ o with openMessages := ⟨code, severity, []⟩ :: o.openMessages }, none)
  | .stop _ =>
    match o.openMessages with
    | [] => (o, none)
    | m :: outer =>
      let o := { o with openMessages := outer }.apply now m
      (o, some o.snapshot)
  | .text content =>
    match o.openMessages with
    | [] =>
      let tail := enqueue o.tailLimit o.snapshot.outputLines (String.ofList content)
      ({ o with snapshot := { o.snapshot with outputLines := tail } }, none)
    | m :: outer =>
      ({ o with openMessages := { m with lines := m.lines ++ [content] } :: outer }, none)

/-- Completes the messages that are still open. One snapshot is delivered if there were any. -/
def flush (now : Moment) (o : Output) : Output × Option Snapshot :=
  if o.openMessages.isEmpty then (o, none)
  else
    let snapshot := o.openMessages.foldl (fun s m => s.apply o.zone now m) o.snapshot
    ({ o with snapshot := snapshot, openMessages := [] }, some snapshot)

/-- The file that an error belongs to, and its range there. A module lies beside the checked file;
an error without location belongs to the start of the checked file. -/
def place (file : Path) (e : ReportedError) : Path × Range :=
  match e.location with
  | some l => ((file.parent?.getD ⟨""⟩).join ⟨l.moduleName ++ ".tla"⟩, l.range)
  | none => (file, .atStart)

/-- The diagnostics of the errors in a snapshot. The checked file is always listed. -/
def diagnosticsOf (s : Snapshot) : Collection :=
  s.errors.foldl
    (fun c e =>
      let (file, range) := place s.modelFile e
      c.add file ⟨range, .error, e.message⟩)
    (.forFile s.modelFile)

/-- The diagnostics of a run whose output has been read to here. -/
def diagnostics (o : Output) : Collection := diagnosticsOf o.snapshot

end Output

end ModelCheck
