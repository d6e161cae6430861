import ModelCheck.Text.Number
import ModelCheck.Text.Scan

/-!
# Statistics

The checker reports how many states it has generated, how many of them are
distinct and how many wait in the queue, at times with the depth it has reached.
Rates and other remarks may stand between the counts. A count is taken at the
first place where all three can be read in order on one line, with as little
passed over between them as possible.
-/

namespace ModelCheck

/-- The counts of one progress report. -/
structure Statistics where
  diameter : Option Nat
  generated : Nat
  distinct : Nat
  left : Nat
deriving DecidableEq, Repr

namespace Statistics

/-- Whether a character may stand in a printed count. -/
def isCount (c : Char) : Bool := Text.isDigit c || c = ','

/-- Reads the three counts as text, from the front. -/
def counts? (s : List Char) : Option (List Char × List Char × List Char) :=
  (Text.runs isCount s).findSome? fun (generated, s) =>
    (Text.after? " states generated".toList s).bind fun s =>
      (Text.skips s).findSome? fun s =>
        (Text.runs isCount s).findSome? fun (distinct, s) =>
          (Text.after? " distinct states found".toList s).bind fun s =>
            (Text.skips s).findSome? fun s =>
              (Text.runs isCount s).findSome? fun (left, s) =>
                (Text.after? " state".toList s).bind fun s =>
                  let s := (Text.after? ['s'] s).getD s
                  (Text.after? " left on queue".toList s).map fun _ => (generated, distinct, left)

/-- Reads a depth in front of the counts, and then the counts. -/
def depthAndCounts? (s : List Char) : Option (List Char × List Char × List Char × List Char) := do
  let s ← Text.after? "Progress(".toList s
  let (depth, s) ← Text.run? Text.isDigit s
  let s ← Text.after? [')'] s
  (Text.skips s).findSome? fun s =>
    (Text.after? ": ".toList s).bind fun s => (counts? s).map (depth, ·)

/-- Reads the report that begins at the front of a text. -/
def here? (s : List Char) : Option (Option (List Char) × List Char × List Char × List Char) :=
  ((depthAndCounts? s).map fun (depth, counts) => (some depth, counts)).or
    ((counts? s).map fun counts => (none, counts))

/-- The statistics in a text. There are none if a count does not fit; a depth that does not fit is
left out. -/
def parse? (s : List Char) : Option Statistics := do
  let (depth, generated, distinct, left) ← Text.leftmost? here? s
  pure {
    diameter := depth.bind Text.readGrouped?
    generated := ← Text.readGrouped? generated
    distinct := ← Text.readGrouped? distinct
    left := ← Text.readGrouped? left }

end Statistics

end ModelCheck
