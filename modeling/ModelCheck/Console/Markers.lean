/-!
# Markers

The signs in front of console lines, in Unicode or in ASCII.
-/

namespace ModelCheck.Console

/-- The signs that console lines begin with. -/
structure Markers where
  ok : String
  fail : String
  warn : String
  bullet : String
  busy : String
  rule : String
deriving DecidableEq, Repr

namespace Markers

/-- Signs for a terminal that shows Unicode. -/
def unicode : Markers := ⟨"✓", "✗", "⚠", "•", "⚙", "─"⟩

/-- Signs for a terminal that shows ASCII only. -/
def ascii : Markers := ⟨"+", "x", "!", "-", "*", "-"⟩

/-- The signs that a setting asks for. -/
def select (asciiOnly : Bool) : Markers := if asciiOnly then ascii else unicode

end Markers

end ModelCheck.Console
