import ModelCheck.Text.Digit

/-!
# Numbers in text

Unsigned numbers are read from ASCII digits and refused from a bound on, so a
number that does not fit its field is no number. Large numbers are printed and
read with a comma between groups of three digits.
-/

namespace ModelCheck.Text

/-- The value of a text of ASCII digits, most significant first, after a value already read. -/
def readDigits : List Char → Nat → Option Nat
  | [], value => some value
  | c :: rest, value => (digitValue? c).bind fun d => readDigits rest (10 * value + d)

/-- Reads a nonempty text of ASCII digits whose value is below the bound. -/
def readNat? (bound : Nat) (s : List Char) : Option Nat :=
  if s.isEmpty then none
  else (readDigits s 0).filter (· < bound)

/-- Numbers below `2 ^ 32`: codes, severities, lines and columns. -/
def readNat32? : List Char → Option Nat := readNat? 4294967296

/-- Numbers below `2 ^ 64`: counts of states. -/
def readNat64? : List Char → Option Nat := readNat? 18446744073709551616

/-- Reads a count whose digits may be separated by commas. -/
def readGrouped? (s : List Char) : Option Nat := readNat64? (s.filter (· != ','))

/-- The decimal digits of a number, without leading zeros. -/
def decimal (n : Nat) : List Char := Nat.toDigits 10 n

/-- Puts a comma before each digit that is followed by a multiple of three digits, itself
counted, unless it is the first one. -/
def separate : List Char → List Char
  | [] => []
  | [c] => [c]
  | c :: rest => if rest.length % 3 = 0 then c :: ',' :: separate rest else c :: separate rest

/-- A number with a comma between groups of three digits. -/
def groupDigits (n : Nat) : String := String.ofList (separate (decimal n))

/-- A number in exactly `width` digits, or in more if it needs them. -/
def padded (width n : Nat) : String :=
  let digits := decimal n
  String.ofList (List.replicate (width - digits.length) '0' ++ digits)

end ModelCheck.Text
