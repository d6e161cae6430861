/-!
# Lines

A line ends at a line feed, and one carriage return just before that line feed
belongs to the ending. Text after the last line feed is a line of its own, from
which nothing is removed.
-/

namespace ModelCheck.Text

/-- Removes one carriage return from the end of a text. -/
def dropReturn (s : List Char) : List Char :=
  if s.getLast? = some '\r' then s.dropLast else s

/-- The lines of a text. `current` holds, reversed, what has been read of the line at hand. -/
def linesFrom : List Char → List Char → List (List Char)
  | [], current => if current.isEmpty then [] else [current.reverse]
  | c :: rest, current =>
    if c = '\n' then dropReturn current.reverse :: linesFrom rest []
    else linesFrom rest (c :: current)

/-- The lines of a string. -/
def lines (s : String) : List String := (linesFrom s.toList []).map String.ofList

/-- The first line of a string, empty if there is none. -/
def firstLine (s : String) : String := (lines s).headD ""

end ModelCheck.Text
