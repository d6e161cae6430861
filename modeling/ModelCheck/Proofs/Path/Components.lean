import Mathlib.Data.List.Basic
import ModelCheck.Path

/-!
# The components of joined paths

A slash divides the pieces of a path. So a name that is joined to a directory is one more component
behind those of the directory, whatever the spelling of the directory.
-/

namespace ModelCheck.Path

/-! ### Pieces -/

/-- Every text has a piece, if only an empty one. -/
theorem pieces_ne_nil (s : List Char) : pieces s ≠ [] := by
  cases s with
  | nil => simp [pieces]
  | cons c rest =>
    rw [pieces]
    split
    · simp
    · split <;> simp

/-- A slash divides pieces. -/
theorem pieces_append (s t : List Char) : pieces (s ++ '/' :: t) = pieces s ++ pieces t := by
  induction s with
  | nil => simp [pieces]
  | cons c rest ih =>
    obtain ⟨piece, others, hpieces⟩ := List.exists_cons_of_ne_nil (pieces_ne_nil rest)
    by_cases hc : c = '/'
    · simp [pieces, hc, ih]
    · simp [pieces, hc, ih, hpieces]

/-- A text without a slash is one piece. -/
theorem pieces_of_not_mem {s : List Char} (h : '/' ∉ s) : pieces s = [s] := by
  induction s with
  | nil => rfl
  | cons c rest ih =>
    simp only [List.mem_cons, not_or] at h
    simp [pieces, Ne.symm h.1, ih h.2]

/-! ### Steps -/

/-- What the pieces of a text add to a path. -/
def steps (s : List Char) : List Component := (pieces s).filterMap ofPiece

/-- The empty text adds nothing. -/
@[simp] theorem steps_nil : steps [] = [] := rfl

/-- The texts on both sides of a slash add their components one after the other. -/
theorem steps_append (s t : List Char) : steps (s ++ '/' :: t) = steps s ++ steps t := by
  rw [steps, pieces_append, List.filterMap_append, steps, steps]

/-- A text without a slash adds at most one component. -/
theorem steps_of_not_mem {s : List Char} (h : '/' ∉ s) : steps s = (ofPiece s).toList := by
  rw [steps, pieces_of_not_mem h]
  cases hs : ofPiece s <;> simp [hs]

/-! ### Components -/

/-- The component that a path has by the way it begins. -/
def leading (s : List Char) : List Component :=
  if s.head? = some '/' then [.root] else if startsAtCurrent s then [.current] else []

/-- The components of a text. -/
def componentsOf (s : List Char) : List Component := leading s ++ (pieces s).filterMap ofPiece

/-- The components of a path are those of its spelling. -/
theorem components_eq (p : Path) : p.components = componentsOf p.spelling.toList := rfl

/-- A text of more than one character starts at the current directory just if it begins with a dot and a
slash. -/
theorem startsAtCurrent_cons_cons (c d : Char) (rest : List Char) :
    startsAtCurrent (c :: d :: rest) = decide (c = '.' ∧ d = '/') := by
  by_cases hc : c = '.'
  · by_cases hd : d = '/' <;> simp [startsAtCurrent, hc, hd]
  · simp [startsAtCurrent, hc]

/-- The way a path begins does not depend on what follows a slash behind its first piece. -/
theorem leading_append {s : List Char} (h : s ≠ []) (t : List Char) :
    leading (s ++ '/' :: t) = leading s := by
  match s, h with
  | [c], _ => by_cases hc : c = '.' <;> simp [leading, startsAtCurrent, hc]
  | c :: d :: rest, _ => simp [leading, startsAtCurrent_cons_cons]

/-- What follows a slash adds its own components. -/
theorem componentsOf_append {s : List Char} (h : s ≠ []) (t : List Char) :
    componentsOf (s ++ '/' :: t) = componentsOf s ++ (pieces t).filterMap ofPiece := by
  rw [componentsOf, componentsOf, leading_append h, pieces_append, List.filterMap_append,
    List.append_assoc]

/-- A slash at the end of a path is no component, unless it is all of the path. -/
theorem componentsOf_slash {s : List Char} (h : s ≠ []) :
    componentsOf (s ++ ['/']) = componentsOf s := by
  rw [componentsOf_append h, pieces, List.filterMap_cons_none rfl, List.filterMap_nil,
    List.append_nil]

/-- Whether a text can be the name of a file: it is one piece, and a component by itself. -/
structure IsName (s : List Char) : Prop where
  not_slash : '/' ∉ s
  isComponent : ofPiece s = some (.name s)

namespace IsName

variable {s : List Char} (h : IsName s)

include h

/-- The only piece of a name is the name. -/
theorem filterMap_pieces : (pieces s).filterMap ofPiece = [.name s] := by
  rw [pieces_of_not_mem h.not_slash]
  simp [h.isComponent]

/-- A name has no slash, so it does not begin with one. -/
theorem not_absolute : s.head? ≠ some '/' := fun hhead => h.not_slash (List.mem_of_head? hhead)

/-- A name is the only component of the path that it is by itself. -/
theorem componentsOf_eq : componentsOf s = [.name s] := by
  have hcurrent : startsAtCurrent s = false := by
    unfold startsAtCurrent
    split
    · have hnone := h.isComponent
      simp [ofPiece] at hnone
    · exact absurd h.not_slash (by simp)
    · rfl
  simp [componentsOf, leading, h.not_absolute, hcurrent, h.filterMap_pieces]

end IsName

/-- A path that is taken relative to a directory stands behind it, and a slash between them unless the
directory ends in one or is empty. -/
theorem spelling_join (d : Path) {p : Path} (h : p.isAbsolute = false) :
    (d.join p).spelling.toList =
      if d.spelling.toList = [] ∨ d.spelling.toList.getLast? = some '/' then
        d.spelling.toList ++ p.spelling.toList
      else d.spelling.toList ++ '/' :: p.spelling.toList := by
  have hempty : d.spelling.isEmpty = decide (d.spelling.toList = []) := by
    rw [Bool.eq_iff_iff]
    simp
  rw [join, h, if_neg Bool.false_ne_true]
  simp only [hempty]
  by_cases hd : d.spelling.toList = [] ∨ d.spelling.toList.getLast? = some '/'
  · rw [if_pos hd, if_pos (by simpa using hd)]
    simp
  · rw [if_neg hd, if_neg (by simpa using hd)]
    simp

/-- A path that is taken relative to a directory adds its steps to those of the directory. -/
theorem components_join_of_relative {d p : Path} (hd : d.spelling.toList ≠ [])
    (hp : p.isAbsolute = false) :
    (d.join p).components = d.components ++ steps p.spelling.toList := by
  rw [components_eq, components_eq, spelling_join d hp]
  generalize d.spelling.toList = directory at hd
  generalize p.spelling.toList = s
  obtain ⟨front, c, rfl⟩ := (List.eq_nil_or_concat' directory).resolve_left hd
  by_cases hc : c = '/'
  · subst hc
    rw [if_pos (by simp), List.append_assoc, List.singleton_append]
    by_cases hroot : front = []
    · subst hroot
      have hempty : ofPiece [] = none := rfl
      simp [componentsOf, leading, pieces, steps, hempty]
    · rw [componentsOf_append hroot, componentsOf_slash hroot, steps]
  · rw [if_neg (by simp [hc]), componentsOf_append (by simp), steps]

/-- A name joined to a directory is one more component. -/
theorem components_join (d : Path) {s : List Char} (h : IsName s) :
    (d.join ⟨String.ofList s⟩).components = d.components ++ [.name s] := by
  have hrelative : isAbsolute ⟨String.ofList s⟩ = false := by
    simpa [isAbsolute] using h.not_absolute
  by_cases hd : d.spelling.toList = []
  · rw [components_eq, components_eq, spelling_join d hrelative, if_pos (Or.inl hd), hd,
      String.toList_ofList]
    exact h.componentsOf_eq
  · rw [components_join_of_relative hd hrelative, String.toList_ofList, steps, h.filterMap_pieces]

end ModelCheck.Path
