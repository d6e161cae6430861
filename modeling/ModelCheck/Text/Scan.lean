/-!
# Matching in text

Small matchers from which the readers of tool output are built. Where a part of a
text can be divided in several ways, the divisions are listed in the order in
which they are preferred, and the first one with which all the rest fits counts.
-/

namespace ModelCheck.Text

/-- What follows a literal that stands at the front of a text. -/
def after? : List Char → List Char → Option (List Char)
  | [], s => some s
  | _ :: _, [] => none
  | a :: literal, c :: s => if a = c then after? literal s else none

/-- The longest nonempty run of characters satisfying `p` at the front, and what follows it. -/
def run? (p : Char → Bool) (s : List Char) : Option (List Char × List Char) :=
  let front := s.takeWhile p
  if front.isEmpty then none else some (front, s.dropWhile p)

/-- Every nonempty run of characters satisfying `p` at the front, the longest first, each with
what follows it. -/
def runs (p : Char → Bool) : List Char → List (List Char × List Char)
  | [] => []
  | c :: s => if p c then (runs p s).map (fun r => (c :: r.1, r.2)) ++ [([c], s)] else []

/-- What may follow when characters of the current line are passed over, as few as possible
first. -/
def skips : List Char → List (List Char)
  | [] => [[]]
  | c :: s => (c :: s) :: if c = '\n' then [] else skips s

/-- The first answer that `f` gives at a place in the text, from the left. -/
def leftmost? {α : Type} (f : List Char → Option α) : List Char → Option α
  | [] => f []
  | c :: s => (f (c :: s)).or (leftmost? f s)

end ModelCheck.Text
