import ModelCheck.Text.Utf8

/-!
# Writing to a console

Console lines go to one writer that all parts of a session share. A write takes as
many bytes as the writer likes, so a text may take several writes, and any of them
may fail. A writer that has failed keeps failing, since whether it takes anything
depends only on what it has taken. Lines are written best-effort: the first write
that fails ends the batch, in the middle of a text or between two, and nobody is
told.
-/

namespace ModelCheck.Console

/-- A writer: the bytes that it has taken, at which of its states it refuses every further write, and
how many bytes of a content it takes in one write besides the first one. -/
structure Writer where
  taken : Text.Bytes
  broken : Text.Bytes → Bool
  more : Text.Bytes → Text.Bytes → Nat

namespace Writer

/-- A writer that never fails and takes every content at once. -/
def reliable : Writer := ⟨[], fun _ => false, fun _ content => content.length⟩

/-- The number of line feeds in bytes. -/
def lineFeeds (content : Text.Bytes) : Nat := content.count 0x0A

/-- A writer that fails once it has taken a number of line feeds. -/
def failingAfter (count : Nat) : Writer :=
  { reliable with broken := fun taken => count ≤ lineFeeds taken }

/-- What has been written, as text. -/
def written (w : Writer) : String := String.ofList (Text.decode w.taken)

/-- Writes a content, with as many writes as it takes, up to the first one that fails. Says whether
everything has been written. Nothing needs no write. -/
def writeAll : Text.Bytes → Writer → Writer × Bool
  | [], w => (w, true)
  | b :: rest, w =>
    if w.broken w.taken then (w, false)
    else
      let count := w.more w.taken (b :: rest)
      writeAll (rest.drop count) { w with taken := w.taken ++ b :: rest.take count }
termination_by content => content.length
decreasing_by
  rw [List.length_drop, List.length_cons]
  omega

/-- Writes lines. The text of a line and its line feed are written one after the other. -/
def writeLines : List String → Writer → Writer
  | [], w => w
  | line :: rest, w =>
    match w.writeAll (Text.encode line) with
    | (w, false) => w
    | (w, true) =>
      match w.writeAll [0x0A] with
      | (w, false) => w
      | (w, true) => writeLines rest w

end Writer

end ModelCheck.Console
