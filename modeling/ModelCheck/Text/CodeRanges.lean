/-!
# Sets of code points

A Unicode property is a set of code points, written as its inclusive ranges in
increasing order. The search stops at the first range that lies above the
character, so an ASCII character never walks a long table.
-/

namespace ModelCheck.Text

/-- Inclusive ranges of code points, in increasing order. -/
abbrev CodeRanges := List (Nat × Nat)

/-- Whether a character lies in one of the ranges. -/
def CodeRanges.contains : CodeRanges → Char → Bool
  | [], _ => false
  | (low, high) :: rest, c =>
    if c.toNat < low then false else decide (c.toNat ≤ high) || CodeRanges.contains rest c

end ModelCheck.Text
