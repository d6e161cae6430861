/-!
# Paths

A path keeps the spelling it was given. Two spellings name the same place when they
have the same components: repeated slashes, a trailing slash and `.` between
components do not count, while `..` does. Paths are ordered by their components,
so `a/b` comes before `a.b`.
-/

namespace ModelCheck

/-- A path as it is spelled. -/
structure Path where
  spelling : String
deriving DecidableEq, Repr, Inhabited

namespace Path

/-- One step of a path. `current` only ever stands at the start of a relative path. -/
inductive Component where
  | root
  | current
  | parent
  | name (text : List Char)
deriving DecidableEq, Repr

/-- The pieces of a text between its slashes. -/
def pieces : List Char → List (List Char)
  | [] => [[]]
  | c :: rest =>
    if c = '/' then [] :: pieces rest
    else
      match pieces rest with
      | [] => [[c]]
      | piece :: others => (c :: piece) :: others

/-- What a piece contributes: nothing if it is empty or `.`. -/
def ofPiece : List Char → Option Component
  | [] => none
  | ['.'] => none
  | ['.', '.'] => some .parent
  | piece => some (.name piece)

/-- Whether a path begins with a slash. -/
def isAbsolute (p : Path) : Bool := p.spelling.toList.head? = some '/'

/-- Whether a relative path begins with the component `.`. -/
def startsAtCurrent (s : List Char) : Bool :=
  match s with
  | ['.'] => true
  | '.' :: '/' :: _ => true
  | _ => false

/-- The components of a path, from the start. -/
def components (p : Path) : List Component :=
  let s := p.spelling.toList
  let first :=
    if s.head? = some '/' then [Component.root]
    else if startsAtCurrent s then [Component.current]
    else []
  first ++ (pieces s).filterMap ofPiece

/-- The length of the leading slash or `.` that is a component by itself. -/
def headLength (s : List Char) : Nat :=
  if s.head? = some '/' || startsAtCurrent s then 1 else 0

/-- Splits a reversed text at its first slash: the last piece, still reversed, and what stands
before that slash. -/
def lastPiece (reversed : List Char) : List Char × List Char :=
  (reversed.takeWhile (· ≠ '/'), (reversed.dropWhile (· ≠ '/')).drop 1)

/-- Cutting off the last piece shortens a text. -/
theorem lastPiece_length {s : List Char} (h : s ≠ []) : (lastPiece s).2.length < s.length := by
  have hsplit := congrArg List.length (List.takeWhile_append_dropWhile (p := (· ≠ '/')) (l := s))
  rw [List.length_append] at hsplit
  have hpos : 0 < s.length := List.length_pos_iff.mpr h
  simp only [lastPiece, List.length_drop]
  by_cases hd : (s.dropWhile (· ≠ '/')).length = 0
  · omega
  · omega

/-- A reversed text without the pieces at its end that contribute no component. -/
def dropIdle (reversed : List Char) : List Char :=
  if _h : reversed = [] then []
  else
    match ofPiece (lastPiece reversed).1.reverse with
    | some _ => reversed
    | none => dropIdle (lastPiece reversed).2
termination_by reversed.length
decreasing_by exact lastPiece_length _h

/-- The path without its last component. There is none above the root and above the empty path. -/
def parent? (p : Path) : Option Path :=
  let s := p.spelling.toList
  let head := s.take (headLength s)
  let body := dropIdle (s.drop (headLength s)).reverse
  if body.isEmpty then
    if head = ['.'] then some ⟨""⟩ else none
  else
    some ⟨String.ofList (head ++ (dropIdle (lastPiece body).2).reverse)⟩

/-- The last component, if it is a name. -/
def fileName? (p : Path) : Option String :=
  match p.components.getLast? with
  | some (.name text) => some (String.ofList text)
  | _ => none

/-- The part of the file name after its last dot, unless nothing stands before that dot. -/
def extension? (p : Path) : Option String :=
  p.fileName?.bind fun name =>
    let reversed := name.toList.reverse
    let after := reversed.takeWhile (· ≠ '.')
    let before := (reversed.dropWhile (· ≠ '.')).drop 1
    if before.isEmpty then none else some (String.ofList after.reverse)

/-- A path taken relative to a directory. An absolute path stands for itself. -/
def join (directory p : Path) : Path :=
  if p.isAbsolute then p
  else
    let s := directory.spelling
    let separator := if s.isEmpty || s.toList.getLast? = some '/' then "" else "/"
    ⟨s ++ separator ++ p.spelling⟩

/-- The rank of a kind of component in the order. -/
def Component.rank : Component → Nat
  | .root => 0
  | .current => 1
  | .parent => 2
  | .name _ => 3

/-- The order of components: by rank, names by their code points. -/
def Component.compare : Component → Component → Ordering
  | .name a, .name b => compareOfLessAndEq a b
  | a, b => Ord.compare a.rank b.rank

/-- The order of lists of components: the first difference decides, and a list comes before its
extensions. -/
def compareComponents : List Component → List Component → Ordering
  | [], [] => .eq
  | [], _ :: _ => .lt
  | _ :: _, [] => .gt
  | a :: as, b :: bs =>
    match a.compare b with
    | .eq => compareComponents as bs
    | different => different

/-- The order of paths. -/
def compare (p q : Path) : Ordering := compareComponents p.components q.components

/-- Two spellings of the same path. -/
def Same (p q : Path) : Prop := p.components = q.components

instance (p q : Path) : Decidable (Same p q) := inferInstanceAs (Decidable (_ = _))

end Path

end ModelCheck
