import ModelCheck.Command
import ModelCheck.Console.Render
import ModelCheck.Console.Writer

/-!
# The console

The console of a session shows the results of runs, a status item and messages,
all through one writer. What it remembers never depends on whether writing
succeeds.
-/

namespace ModelCheck

/-- An entry of the status line. -/
structure StatusItem where
  text : String
  tooltip : String
  command : Command
deriving DecidableEq, Repr

/-- The console: its writer and settings, what it has printed and last seen of the current run, and
the status item it shows. -/
structure Console where
  writer : Console.Writer
  markers : Console.Markers
  acceptsOffers : Bool
  cursor : Console.Cursor
  last : Option Snapshot
  shown : Option StatusItem

namespace Console

/-- A console on which nothing has happened. -/
def start (writer : Writer) (markers : Markers) (acceptsOffers : Bool) : Console :=
  ⟨writer, markers, acceptsOffers, .start, none, none⟩

/-- Prints lines. -/
def print (lines : List String) (c : Console) : Console :=
  { c with writer := c.writer.writeLines lines }

/-! ### Results -/

/-- Starts the display of a new run. -/
def revealEmpty (c : Console) : Console :=
  { c with cursor := .start, last := none }.print [header c.markers]

/-- Shows what a snapshot adds. -/
def update (s : Snapshot) (c : Console) : Console :=
  { c with cursor := c.cursor.advance s, last := some s }.print (updateLines c.markers c.cursor s)

/-- Shows the summary of the last snapshot. -/
def reveal (c : Console) : Console := c.print (summaryLines c.markers c.last)

/-! ### Status -/

/-- The icon in the text of a status item that a console shows as its busy marker. -/
def spinner : String := "$(gear~spin)"

/-- The line for a status item. -/
def statusLine (m : Markers) (item : StatusItem) : String :=
  "[" ++ Text.trimmed (item.text.replace spinner m.busy) ++ "] " ++ item.tooltip

/-- Shows a status item. It is printed only if it is not the one that is shown. -/
def showStatus (item : StatusItem) (c : Console) : Console :=
  let next := { c with shown := some item }
  if c.shown = some item then next else next.print [statusLine c.markers item]

/-- Takes the status item away, which prints nothing. -/
def hideStatus (c : Console) : Console := { c with shown := none }

/-! ### Messages -/

/-- Tells the user something. -/
def info (text : String) (c : Console) : Console := c.print ["info: " ++ text]

/-- Warns the user. -/
def warn (text : String) (c : Console) : Console := c.print ["warning: " ++ text]

/-- Reports an error to the user. -/
def error (text : String) (c : Console) : Console := c.print ["error: " ++ text]

/-- Warns the user and offers an action. A console takes offers or leaves them by its settings. -/
def offer (text action : String) (c : Console) : Console :=
  c.print (("warning: " ++ text ++ " [" ++ action ++ "]")
    :: if c.acceptsOffers then ["  -> " ++ action] else [])

end Console

end ModelCheck
