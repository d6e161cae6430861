import ModelCheck.Output
import ModelCheck.Text.Utf8

/-!
# Reading output as it arrives

Bytes arrive in chunks that are cut anywhere. They are collected up to a line
feed, and each line is decoded as a whole, so the cuts do not show: the same bytes
give the same snapshots.
-/

namespace ModelCheck.Output

/-- The state of reading a stream: the output so far and the bytes of a line that has not ended. -/
structure Reader where
  output : Output
  pending : Text.Bytes

/-- Something that arrives on a stream: bytes, or a failure to read. -/
inductive Chunk where
  | bytes (content : Text.Bytes)
  | failure (cause : String)
deriving DecidableEq, Repr

namespace Reader

/-- A reader at the start of a stream. -/
def start (file : Path) (tailLimit : Nat := defaultTailLimit) (zone : Zone := .utc) : Reader :=
  ⟨.start file tailLimit zone, []⟩

/-- Takes one complete line as bytes. -/
def line (now : Moment) (content : Text.Bytes) (r : Reader) : Reader × List Snapshot :=
  let (output, delivered) := r.output.pushLine now (Text.decode content)
  ({ r with output := output }, delivered.toList)

/-- Divides bytes into the lines that a line feed ends, each with its line feed, and the bytes after
the last one. `current` holds, reversed, the bytes of the line at hand. -/
def divide : Text.Bytes → Text.Bytes → List Text.Bytes × Text.Bytes
  | current, [] => ([], current.reverse)
  | current, b :: rest =>
    if b = 0x0A then
      let (lines, last) := divide [] rest
      ((b :: current).reverse :: lines, last)
    else divide (b :: current) rest

/-- Takes complete lines in order. -/
def takeLines (now : Moment) : List Text.Bytes → Reader → Reader × List Snapshot
  | [], r => (r, [])
  | content :: rest, r =>
    let (r, first) := r.line now content
    let (r, others) := takeLines now rest r
    (r, first ++ others)

/-- Takes bytes that have arrived. -/
def feed (now : Moment) (content : Text.Bytes) (r : Reader) : Reader × List Snapshot :=
  let (lines, last) := divide r.pending.reverse content
  let (r, delivered) := takeLines now lines r
  ({ r with pending := last }, delivered)

/-- Ends the stream: bytes without a line feed are a line too, and open messages are completed. -/
def finish (now : Moment) (r : Reader) : Output × List Snapshot :=
  let (r, first) := if r.pending.isEmpty then (r, []) else r.line now r.pending
  let (output, last) := r.output.flush now
  (output, first ++ last.toList)

/-- Takes chunks until the stream ends or fails. A failure leaves unread what came after it. -/
def readAll (now : Moment) : List Chunk → Reader → Except String Output × List Snapshot
  | [], r =>
    let (output, delivered) := r.finish now
    (.ok output, delivered)
  | .failure cause :: _, _ => (.error cause, [])
  | .bytes content :: rest, r =>
    let (r, first) := r.feed now content
    let (result, others) := readAll now rest r
    (result, first ++ others)

end Reader

end ModelCheck.Output
