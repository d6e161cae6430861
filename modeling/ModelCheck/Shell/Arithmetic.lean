import ModelCheck.Text.Number

/-!
# Arithmetic of the shell

Expressions over whole numbers with the usual precedence. A comparison is one or
zero. Division is rounded towards zero.
-/

namespace ModelCheck.Shell.Arithmetic

/-- Operators of one precedence, by their signs. -/
abbrev Level := List (String × (Int → Int → Option Int))

/-- The binary operators by precedence, the weakest first; the longer signs come before their
beginnings. -/
def levels : List Level :=
  let truth (b : Bool) : Option Int := some (if b then 1 else 0)
  [[("||", fun a b => truth (a ≠ 0 || b ≠ 0))],
   [("&&", fun a b => truth (a ≠ 0 && b ≠ 0))],
   [("==", fun a b => truth (a = b)), ("!=", fun a b => truth (a ≠ b))],
   [("<=", fun a b => truth (a ≤ b)), (">=", fun a b => truth (b ≤ a)),
    ("<", fun a b => truth (a < b)), (">", fun a b => truth (b < a))],
   [("+", fun a b => some (a + b)), ("-", fun a b => some (a - b))],
   [("*", fun a b => some (a * b)),
    ("/", fun a b => if b = 0 then none else some (a.tdiv b)),
    ("%", fun a b => if b = 0 then none else some (a.tmod b))]]

/-- A text without the blanks at its front. -/
def skip (s : List Char) : List Char := s.dropWhile fun c => c = ' ' || c = '\t' || c = '\n'

/-- The operator at the front of a text. -/
def operator? (level : Level) (s : List Char) :
    Option ((Int → Int → Option Int) × List Char) :=
  level.findSome? fun (sign, f) =>
    if sign.toList.isPrefixOf s then some (f, s.drop sign.length) else none

mutual

/-- Reads operands with operators of the given levels between them. -/
def readLevel (value : List Char → Int) : Nat → List Level → List Char →
    Option (Int × List Char)
  | 0, _, _ => none
  | fuel + 1, [], s => readOperand value fuel (skip s)
  | fuel + 1, level :: tighter, s =>
    (readLevel value fuel tighter s).bind fun (first, s) =>
      readMore value fuel level tighter first s

/-- Reads operators of a level and their right operands. -/
def readMore (value : List Char → Int) : Nat → Level → List Level → Int → List Char →
    Option (Int × List Char)
  | 0, _, _, _, _ => none
  | fuel + 1, level, tighter, first, s =>
    match operator? level (skip s) with
    | none => some (first, s)
    | some (f, s) =>
      (readLevel value fuel tighter s).bind fun (second, s) =>
        (f first second).bind fun result => readMore value fuel level tighter result s

/-- Reads a number, a variable, a sign or brackets. -/
def readOperand (value : List Char → Int) : Nat → List Char → Option (Int × List Char)
  | 0, _ => none
  | fuel + 1, s =>
    match s with
    | [] => none
    | '(' :: rest =>
      (readLevel value fuel levels rest).bind fun (result, rest) =>
        match skip rest with
        | ')' :: rest => some (result, rest)
        | _ => none
    | '-' :: rest => (readOperand value fuel (skip rest)).map fun (n, rest) => (-n, rest)
    | '+' :: rest => readOperand value fuel (skip rest)
    | '!' :: rest =>
      (readOperand value fuel (skip rest)).map fun (n, rest) => (if n = 0 then 1 else 0, rest)
    | '$' :: rest => readOperand value fuel rest
    | c :: _ =>
      let inWord (c : Char) : Bool := c.isAlphanum || c = '_'
      let word := s.takeWhile inWord
      let rest := s.dropWhile inWord
      if word.isEmpty then none
      else if c.isDigit then (Text.readNat64? word).map fun n => ((n : Int), rest)
      else some (value word, rest)

end

/-- The value of an expression, given the values of variables. An empty one is zero. -/
def evaluate (value : List Char → Int) (s : List Char) : Option Int :=
  if (skip s).isEmpty then some 0
  else
    (readLevel value (16 * s.length + 16) levels s).bind fun (result, rest) =>
      if (skip rest).isEmpty then some result else none

end ModelCheck.Shell.Arithmetic
