import ModelCheck.Shell.State

/-!
# Expansion

Before a command is carried out its words are expanded. What is put in outside
quotes is split into fields, and the arguments in quotes are one field each.
Commands in a word are carried out by a function that is passed in.
-/

namespace ModelCheck.Shell

/-- What a part of a word becomes. -/
inductive Piece where
  /-- Text that joins the field it stands in. -/
  | joined (text : List Char)
  /-- Text that is split at blanks. -/
  | split (text : List Char)
  /-- The end of a field. -/
  | divide
deriving DecidableEq, Repr

/-- Carries out commands: their output, and the shell after them. -/
abbrev Collect := List Char → Shell → List Char × Shell

/-- Splits a text at blanks: the fields that end in it, and the one that does not. -/
def splitField : List Char → Option (List Char) → List (List Char) × Option (List Char)
  | [], field => ([], field)
  | c :: text, field =>
    if isSeparator c then
      let (more, last) := splitField text none
      (field.toList ++ more, last)
    else splitField text (some (field.getD [] ++ [c]))

/-- The fields of pieces, given the field that has begun. -/
def fieldsOf : List Piece → Option (List Char) → List (List Char)
  | [], field => field.toList
  | .joined text :: rest, field => fieldsOf rest (some (field.getD [] ++ text))
  | .divide :: rest, field => field.toList ++ fieldsOf rest none
  | .split text :: rest, field =>
    let (done, field) := splitField text field
    done ++ fieldsOf rest field

/-- A text put in within quotes or outside them. -/
def Piece.of (quoted : Bool) (text : List Char) : Piece :=
  if quoted then .joined text else .split text

/-- All pieces as one text. -/
def textOf (pieces : List Piece) : List Char :=
  pieces.flatMap fun
    | .joined text => text
    | .split text => text
    | .divide => [' ']

/-- A text without the ends of lines at its end. -/
def dropLineEnds (s : List Char) : List Char := (s.reverse.dropWhile (· = '\n')).reverse

/-- The text left when the shortest or longest end of it that fits is taken away. -/
def dropFitting (pattern : List (Char × Bool)) (ending longest : Bool) (s : List Char) :
    List Char :=
  let cuts := (List.range (s.length + 1)).filter fun n =>
    if ending then fits pattern (s.drop n) else fits pattern (s.take n)
  match if longest = ending then cuts.head? else cuts.getLast? with
  | some n => if ending then s.take n else s.drop n
  | none => s

mutual

/-- Expands a part of a word. -/
def expandPart (collect : Collect) : Nat → Part → Shell → List Piece × Shell
  | 0, _, sh => ([], sh)
  | fuel + 1, part, sh =>
    match part with
    | .text content _ => ([.joined content], sh)
    | .arithmetic source quoted =>
      match sh.arithmetic? source with
      | some value => ([.of quoted value], sh)
      | none => ([], sh.complain "arithmetic expression".toList 2)
    | .output source quoted =>
      let (text, sh) := collect source sh
      ([.of quoted (dropLineEnds text)], sh)
    | .parameter ['@'] [] quoted =>
      ((sh.arguments.map (Piece.of quoted)).intersperse .divide, sh)
    | .parameter ['*'] [] false =>
      ((sh.arguments.map (Piece.of false)).intersperse .divide, sh)
    | .parameter name operation quoted =>
      let value := sh.parameter? name
      let unset (strict : Bool) : Bool := value.isNone || (strict && value = some [])
      let (strict, sign, rest) : Bool × Option Char × List Char :=
        match operation with
        | ':' :: c :: rest => (true, some c, rest)
        | c :: rest => (false, some c, rest)
        | [] => (false, none, [])
      let other (sh : Shell) := expandWord collect fuel ((readWord rest).elim [] (·.1)) sh
      match sign with
      | some '-' => if unset strict then other sh else ([.of quoted (value.getD [])], sh)
      | some '+' => if unset strict then ([.of quoted []], sh) else other sh
      | some '=' =>
        if unset strict then
          let (pieces, sh) := other sh
          ([.of quoted (textOf pieces)], sh.assign name (textOf pieces))
        else ([.of quoted (value.getD [])], sh)
      | some '#' =>
        if rest.isEmpty then
          ([.of quoted (Text.decimal (value.getD []).length)], sh)
        else
          let longest := rest.head? = some '#'
          let source := if longest then rest.drop 1 else rest
          ([.of quoted (dropFitting (source.map (·, false)) false longest (value.getD []))], sh)
      | some '%' =>
        let longest := rest.head? = some '%'
        let source := if longest then rest.drop 1 else rest
        ([.of quoted (dropFitting (source.map (·, false)) true longest (value.getD []))], sh)
      | _ => ([.of quoted (value.getD [])], sh)

/-- Expands a word. -/
def expandWord (collect : Collect) : Nat → Word → Shell → List Piece × Shell
  | 0, _, sh => ([], sh)
  | _ + 1, [], sh => ([], sh)
  | fuel + 1, part :: rest, sh =>
    let (first, sh) := expandPart collect fuel part sh
    let (others, sh) := expandWord collect fuel rest sh
    (first ++ others, sh)

end

/-- The deepest nesting of words in words. -/
def expansionDepth : Nat := 100000

/-- Expands a word into one text. -/
def expandText (collect : Collect) (w : Word) (sh : Shell) : List Char × Shell :=
  let (pieces, sh) := expandWord collect expansionDepth w sh
  (textOf pieces, sh)

/-- Expands words into fields. -/
def expandFields (collect : Collect) : List Word → Shell → List (List Char) × Shell
  | [], sh => ([], sh)
  | w :: rest, sh =>
    let (pieces, sh) := expandWord collect expansionDepth w sh
    let (others, sh) := expandFields collect rest sh
    (fieldsOf pieces none ++ others, sh)

/-- Expands a word into a pattern, in which quoted characters stand for themselves. -/
def expandPattern (collect : Collect) : Word → Shell → List (Char × Bool) × Shell
  | [], sh => ([], sh)
  | part :: rest, sh =>
    let quoted := match part with
      | .text _ quoted => quoted
      | .parameter _ _ quoted => quoted
      | .output _ quoted => quoted
      | .arithmetic _ quoted => quoted
    let (text, sh) := expandText collect [part] sh
    let (others, sh) := expandPattern collect rest sh
    (text.map (·, quoted) ++ others, sh)

end ModelCheck.Shell
