import ModelCheck.Diagnostic.Basic
import ModelCheck.Text.Number
import ModelCheck.Text.Scan
import ModelCheck.Text.Word

/-!
# Locations in text

Errors say where they are as `line 4, col 9 to line 4, col 13 of module M`. The
leftmost place of that form in a text is its location, in the spelling `col` or
`column`; it counts for nothing if one of its numbers does not fit.
-/

namespace ModelCheck.Location

/-- A location as it stands in a text: the four numbers unread, and the name of the module. -/
structure Spelled where
  line : List Char
  column : List Char
  endLine : List Char
  endColumn : List Char
  moduleName : List Char

/-- The range that the numbers give, if all of them fit. -/
def Spelled.range? (s : Spelled) : Option Range := do
  pure (.ofOneBased (← Text.readNat32? s.line) (← Text.readNat32? s.column)
    (← Text.readNat32? s.endLine) (← Text.readNat32? s.endColumn))

/-- Reads `line N, col N` at the front of a text. The long spelling of the column is taken only if
`long` allows it. -/
def place? (long : Bool) (s : List Char) : Option ((List Char × List Char) × List Char) := do
  let s ← Text.after? "line ".toList s
  let (line, s) ← Text.run? Text.isDigit s
  let s ← Text.after? ", col".toList s
  let s := if long then (Text.after? "umn".toList s).getD s else s
  let s ← Text.after? [' '] s
  let (column, s) ← Text.run? Text.isDigit s
  pure ((line, column), s)

/-- Reads a location at the front of a text. -/
def spelled? (long : Bool) (s : List Char) : Option (Spelled × List Char) := do
  let ((line, column), s) ← place? long s
  let s ← Text.after? " to ".toList s
  let ((endLine, endColumn), s) ← place? long s
  let s ← Text.after? " of module ".toList s
  let (moduleName, s) ← Text.run? Text.isWord s
  pure (⟨line, column, endLine, endColumn, moduleName⟩, s)

/-- The location in a text. -/
def find? (s : List Char) : Option Location := do
  let (spelled, _) ← Text.leftmost? (spelled? true) s
  pure ⟨String.ofList spelled.moduleName, ← spelled.range?⟩

end ModelCheck.Location
