import Mathlib.Data.List.Lex
import Mathlib.Data.String.Basic
import ModelCheck.Path

/-!
# The order of paths

Components are ordered by their rank and then by their characters, and paths lexicographically by their
components. This is a total order in which two paths are equal just if they have the same components,
so a list of files in path order holds no file under two spellings.
-/

namespace ModelCheck.Path

/-! ### Texts -/

/-- The order of texts in names, by their code points. -/
def compareTexts (s t : List Char) : Ordering := compareOfLessAndEq s t

instance : Std.TransCmp compareTexts :=
  Std.TransCmp.compareOfLessAndEq_of_irrefl_of_trans_of_antisymm lt_irrefl lt_trans
    fun hst hts => le_antisymm (not_lt.mp hts) (not_lt.mp hst)

/-- Texts are equal in their order just if they are the same. -/
theorem compareTexts_eq_iff {s t : List Char} : compareTexts s t = .eq ↔ s = t := by
  by_cases hlt : s < t
  · simp [compareTexts, compareOfLessAndEq, hlt, ne_of_lt hlt]
  · simp [compareTexts, compareOfLessAndEq, hlt]

/-! ### Components -/

namespace Component

/-- The characters of a name. The other components have none. -/
def text : Component → List Char
  | .name text => text
  | _ => []

/-- Components are ordered by rank, and by text where the rank is the same. -/
theorem compare_eq (a b : Component) :
    a.compare b = compareLex (compareOn rank) (fun a b => compareTexts a.text b.text) a b := by
  have hnil : compareTexts [] [] = .eq := compareTexts_eq_iff.mpr rfl
  cases a <;> cases b <;> simp [compare, compareLex, compareOn, rank, text, hnil] <;> rfl

instance : Std.TransCmp fun a b : Component => compareTexts a.text b.text where
  eq_swap := Std.OrientedCmp.eq_swap
  isLE_trans hab hbc := Std.TransCmp.isLE_trans hab hbc

instance : Std.TransCmp compare := by
  have heq : compare = compareLex (compareOn rank) fun a b => compareTexts a.text b.text :=
    funext₂ compare_eq
  rw [heq]
  infer_instance

/-- Components that are equal in their order are the same. -/
theorem eq_of_compare {a b : Component} (h : a.compare b = .eq) : a = b := by
  rw [compare_eq, compareLex, Ordering.then_eq_eq, compareOn, Nat.compare_eq_eq,
    compareTexts_eq_iff] at h
  obtain ⟨hrank, htext⟩ := h
  cases a <;> cases b <;> simp_all [rank, text]

instance : Std.LawfulEqCmp compare where
  eq_of_compare := eq_of_compare

end Component

/-! ### Paths -/

/-- The order of lists of components is the lexicographic one. -/
theorem compareComponents_eq : compareComponents = List.compareLex Component.compare := by
  funext as bs
  induction as generalizing bs with
  | nil => cases bs <;> rfl
  | cons a as ih =>
    cases bs with
    | nil => rfl
    | cons b bs =>
      rw [compareComponents, List.compareLex_cons_cons]
      cases h : a.compare b with
      | lt => rfl
      | eq => simp [ih]
      | gt => rfl

instance : Std.TransCmp compare where
  eq_swap {p q} := by
    rw [compare, compare, compareComponents_eq]
    exact Std.OrientedCmp.eq_swap
  isLE_trans {p q r} hpq hqr := by
    rw [compare, compareComponents_eq] at *
    exact Std.TransCmp.isLE_trans hpq hqr

/-- Paths are equal in the order just if they are the same path. -/
theorem compare_eq_iff {p q : Path} : p.compare q = .eq ↔ p.Same q := by
  rw [compare, compareComponents_eq, Std.LawfulEqCmp.compare_eq_iff_eq, Same]

/-! ### What stands before what -/

/-- A text is below another one just as lists of characters are. -/
theorem compareTexts_eq_lt_iff {s t : List Char} : compareTexts s t = .lt ↔ s < t := by
  by_cases hlt : s < t
  · simp [compareTexts, compareOfLessAndEq, hlt]
  · by_cases heq : s = t <;> simp [compareTexts, compareOfLessAndEq, hlt, heq]

namespace Component

/-- A component stands before those of later kinds, and a name before the names whose characters come
later. -/
def Before (a b : Component) : Prop := a.rank < b.rank ∨ a.rank = b.rank ∧ a.text < b.text

/-- A component is below another one by its rank, or by its text at the same rank. -/
theorem compare_eq_lt_iff {a b : Component} : a.compare b = .lt ↔ a.Before b := by
  rw [compare_eq, compareLex, Ordering.then_eq_lt, compareOn, Nat.compare_eq_lt, Nat.compare_eq_eq,
    compareTexts_eq_lt_iff, Before]

instance : Std.Asymm Before where
  asymm a b hab hba := by
    have hgt : a.compare b = .gt := Std.OrientedCmp.gt_of_lt (compare_eq_lt_iff.mpr hba)
    simp [compare_eq_lt_iff.mpr hab] at hgt

end Component

/-- A path stands before another if the first of its components that differs does, or if it ends where
the other goes on. -/
def Before (p q : Path) : Prop := List.Lex Component.Before p.components q.components

/-- Lists of components are in order if the first difference is, or if the first list ends there. -/
theorem compareComponents_eq_lt_iff {as bs : List Component} :
    compareComponents as bs = .lt ↔ List.Lex Component.Before as bs := by
  induction as generalizing bs with
  | nil =>
    cases bs with
    | nil => exact ⟨nofun, nofun⟩
    | cons b bs => exact ⟨fun _ => .nil, fun _ => rfl⟩
  | cons a as ih =>
    cases bs with
    | nil => exact ⟨nofun, nofun⟩
    | cons b bs =>
      rw [compareComponents]
      cases hcompare : a.compare b with
      | lt => exact ⟨fun _ => .rel (Component.compare_eq_lt_iff.mp hcompare), fun _ => rfl⟩
      | eq =>
        obtain rfl := Component.eq_of_compare hcompare
        exact ih.trans List.lex_cons_iff.symm
      | gt =>
        have hafter : b.Before a :=
          Component.compare_eq_lt_iff.mp (Std.OrientedCmp.gt_iff_lt.mp hcompare)
        refine ⟨nofun, fun hlex => ?_⟩
        exact absurd (List.Lex.rel hafter) (asymm hlex)

/-- A path is below another one just if its components are, lexicographically. -/
theorem compare_eq_lt_iff {p q : Path} : p.compare q = .lt ↔ p.Before q :=
  compareComponents_eq_lt_iff

end ModelCheck.Path
