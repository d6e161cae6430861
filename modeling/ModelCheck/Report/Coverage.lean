import ModelCheck.Report.Location
import ModelCheck.Text.Blank

/-!
# Coverage

A coverage report has a line for each action of the specification: its name and
place, how many distinct states it led to and how often it was taken. Blank
characters may stand before the line and anything may follow it.
-/

namespace ModelCheck

/-- The coverage of one action. -/
structure Coverage where
  moduleName : String
  action : String
  range : Range
  distinct : Nat
  total : Nat
deriving DecidableEq, Repr

namespace Coverage

/-- The coverage that a line reports, if it has the form of such a line and its numbers fit. -/
def parse? (line : List Char) : Option Coverage := do
  let s ← Text.after? ['<'] (line.dropWhile Text.isBlank)
  let (action, s) ← Text.run? Text.isWord s
  let s ← Text.after? [' '] s
  let (spelled, s) ← Location.spelled? false s
  let s ← Text.after? ">: ".toList s
  let (distinct, s) ← Text.run? Text.isDigit s
  let s ← Text.after? [':'] s
  let (total, _) ← Text.run? Text.isDigit s
  pure {
    moduleName := String.ofList spelled.moduleName
    action := String.ofList action
    range := ← spelled.range?
    distinct := ← Text.readNat64? distinct
    total := ← Text.readNat64? total }

end Coverage

end ModelCheck
