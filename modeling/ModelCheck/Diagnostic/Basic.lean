import ModelCheck.Path

/-!
# Diagnostics

A diagnostic is a message about a range of a file. Lines and columns count from
zero, and a range ends just after its last column.
-/

namespace ModelCheck

/-- A place in a text: line and column, both from zero. -/
structure Position where
  line : Nat
  column : Nat
deriving DecidableEq, Repr, Inhabited

/-- The text between two places. -/
structure Range where
  start : Position
  stop : Position
deriving DecidableEq, Repr, Inhabited

namespace Range

/-- The empty range at the start of a file. -/
def atStart : Range := ⟨⟨0, 0⟩, ⟨0, 0⟩⟩

/-- The range that a tool gives by its first and last line and column, counted from one. The last
column is included there and excluded here, so its number stays. -/
def ofOneBased (line column endLine endColumn : Nat) : Range :=
  ⟨⟨line - 1, column - 1⟩, ⟨endLine - 1, endColumn⟩⟩

end Range

/-- A range of a named module. -/
structure Location where
  moduleName : String
  range : Range
deriving DecidableEq, Repr

/-- How grave a diagnostic is. -/
inductive Severity where
  | error
  | warning
  | information
deriving DecidableEq, Repr

namespace Severity

/-- The word for a severity in written diagnostics. -/
def word : Severity → String
  | .error => "error"
  | .warning => "warning"
  | .information => "information"

/-- The severity a word stands for. -/
def ofWord? (text : String) : Option Severity :=
  [Severity.error, .warning, .information].find? fun s => s.word = text

end Severity

/-- A message about a range of a file. -/
structure Diagnostic where
  range : Range
  severity : Severity
  message : String
deriving DecidableEq, Repr

end ModelCheck
