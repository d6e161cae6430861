import Mathlib.Data.List.DropRight
import ModelCheck.FileTree

/-!
# The places that paths denote

A path denotes a place for whoever works in a directory, be anything there or not: the place to which its
pieces lead one by one. A relative path climbs some levels above where it starts and goes down from there
by names; so it denotes the same place from two directories just if these agree that far up.
-/

namespace ModelCheck

namespace Place

/-- Where a piece of a path leads to. -/
def follow (p : Place) (piece : List Char) : Place :=
  if piece = [] ∨ piece = ['.'] then p else if piece = ['.', '.'] then p.dropLast else p ++ [piece]

/-- One more piece behind pieces that climb some levels and go down by some names. -/
def extend (way : ℕ × Place) (piece : List Char) : ℕ × Place :=
  if piece = [] ∨ piece = ['.'] then way
  else if piece = ['.', '.'] then
    if way.2 = [] then (way.1 + 1, []) else (way.1, way.2.dropLast)
  else (way.1, way.2 ++ [piece])

/-- How many levels pieces climb, and the names by which they go down from there. -/
def way (pieces : List (List Char)) : ℕ × Place := pieces.foldl extend (0, [])

/-- The last piece goes on from where the others lead. -/
theorem way_concat (front : List (List Char)) (piece : List Char) :
    way (front ++ [piece]) = extend (way front) piece :=
  List.foldl_concat _ _ _ _

/-- Climbing one level more. -/
theorem dropLast_rdrop (p : Place) (n : ℕ) : (p.rdrop n).dropLast = p.rdrop (n + 1) := by
  rw [List.rdrop, List.rdrop, List.dropLast_eq_take, List.length_take, List.take_take]
  congr 1
  omega

/-- Pieces lead from a place to what is left of it after the climb, and on by the names. -/
theorem foldl_follow (p : Place) (pieces : List (List Char)) :
    pieces.foldl follow p = p.rdrop (way pieces).1 ++ (way pieces).2 := by
  induction pieces using List.reverseRecOn with
  | nil => simp [way]
  | append_singleton front piece ih =>
    rw [List.foldl_concat, ih, way_concat]
    by_cases hidle : piece = [] ∨ piece = ['.']
    · rw [follow, if_pos hidle, extend, if_pos hidle]
    · rw [follow, if_neg hidle, extend, if_neg hidle]
      by_cases hup : piece = ['.', '.']
      · rw [if_pos hup, if_pos hup]
        by_cases hnames : (way front).2 = []
        · rw [if_pos hnames, hnames, List.append_nil, List.append_nil]
          exact dropLast_rdrop p _
        · rw [if_neg hnames]
          exact List.dropLast_append_of_ne_nil hnames
      · rw [if_neg hup, if_neg hup]
        exact List.append_assoc _ _ _

/-- Without a piece that leads upwards there is no climb. -/
theorem way_fst_eq_zero {pieces : List (List Char)} (h : ['.', '.'] ∉ pieces) :
    (way pieces).1 = 0 := by
  induction pieces using List.reverseRecOn with
  | nil => rfl
  | append_singleton front piece ih =>
    simp only [List.mem_append, List.mem_singleton, not_or] at h
    obtain ⟨hfront, hup⟩ := h
    rw [way_concat, extend, if_neg (Ne.symm hup)]
    split
    · exact ih hfront
    · exact ih hfront

end Place

namespace Path

/-- How many levels a path climbs above where it starts. -/
def climb (p : Path) : ℕ := (Place.way (pieces p.spelling.toList)).1

/-- The place that a path denotes for whoever works in a directory. -/
def denoted (directory : Place) (p : Path) : Place :=
  (pieces p.spelling.toList).foldl Place.follow (if p.isAbsolute then [] else directory)

/-- A path denotes the same place from two directories just if it is absolute or the directories agree
above its climb. -/
theorem denoted_eq_iff {here there : Place} {p : Path} :
    p.denoted there = p.denoted here ↔
      p.isAbsolute = true ∨ there.rdrop p.climb = here.rdrop p.climb := by
  cases h : p.isAbsolute with
  | true => simp [denoted, h]
  | false => simp [denoted, h, climb, Place.foldl_follow]

/-- A path without `..` denotes the same place from two directories just if it is absolute or they are
one directory. -/
theorem denoted_eq_iff_of_not_mem {here there : Place} {p : Path}
    (h : ['.', '.'] ∉ pieces p.spelling.toList) :
    p.denoted there = p.denoted here ↔ p.isAbsolute = true ∨ there = here := by
  have hclimb : p.climb = 0 := Place.way_fst_eq_zero h
  rw [denoted_eq_iff, hclimb, List.rdrop_zero, List.rdrop_zero]

end Path

namespace FileTree

variable {t : FileTree} {p q directory : Place} {path : Path}

/-- A step of a walk leads to where its piece leads to. -/
theorem enter_follow {piece : List Char} (h : t.enter p piece = .ok q) : q = p.follow piece := by
  unfold enter at h
  cases hdirectory : t.needDirectory p with
  | error cause =>
    rw [hdirectory] at h
    cases h
  | ok _ =>
    rw [hdirectory] at h
    simp only [Except.bind, Bool.or_eq_true, decide_eq_true_eq] at h
    unfold Place.follow
    split at h
    · next hidle => rw [if_pos hidle, Except.ok.inj h]
    · next hidle =>
      rw [if_neg hidle]
      split at h
      · next hup => rw [if_pos hup, Except.ok.inj h]
      · next hup =>
        rw [if_neg hup]
        split at h
        · cases h
        · exact (Except.ok.inj h).symm

/-- A walk that comes to its end has gone where the pieces lead. -/
theorem walk_follow {pieces : List (List Char)} (h : t.walk p pieces = .ok q) :
    q = pieces.foldl Place.follow p := by
  induction pieces generalizing p with
  | nil => exact (Except.ok.inj h).symm
  | cons piece rest ih =>
    rw [walk, List.foldlM_cons] at h
    cases hfirst : t.enter p piece with
    | error cause =>
      rw [hfirst] at h
      cases h
    | ok next =>
      rw [hfirst] at h
      rw [List.foldl_cons, ← enter_follow hfirst]
      exact ih h

/-- A route is that of all pieces of the path, from the root if the path is absolute. -/
theorem route_eq {beginning : Place × List (List Char)}
    (h : route directory path = .ok beginning) :
    beginning = (if path.isAbsolute then [] else directory, Path.pieces path.spelling.toList) := by
  rw [route] at h
  by_cases hempty : path.spelling.toList = []
  · rw [if_pos hempty] at h
    cases h
  by_cases hbad : path.spelling.toList.contains '\x00' = true
  · rw [if_neg hempty, if_pos hbad] at h
    cases h
  by_cases hlong : longestPath < byteCount path.spelling.toList
  · rw [if_neg hempty, if_neg hbad, if_pos hlong] at h
    cases h
  · rw [if_neg hempty, if_neg hbad, if_neg hlong] at h
    exact (Except.ok.inj h).symm

/-- A path that leads anywhere leads to the place that it denotes. -/
theorem find_eq_denoted (h : t.find directory path = .ok q) : q = path.denoted directory := by
  unfold find at h
  cases hroute : route directory path with
  | error cause =>
    rw [hroute] at h
    cases h
  | ok beginning =>
    rw [hroute] at h
    have hwalk := walk_follow (p := beginning.1) h
    rw [hwalk, route_eq hroute]
    rfl

end FileTree

end ModelCheck
