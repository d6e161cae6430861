import ModelCheck.Proofs.Text.Groups
import ModelCheck.Report.Location

/-!
# Locations as they are written

A location is written as two places and the name of a module. It is read from a text that begins with it,
in the only way in which the text can be divided.
-/

namespace ModelCheck.Location

open Text (IsRun Ends after?_append after?_eq_some_iff ends_cons isDigit isWord run?_eq_some_iff)

/-! ### Places -/

/-- What stands before the number of a line. -/
def lineMark : List Char := "line ".toList

/-- What stands between the number of a line and that of a column, which is spelled long or short. -/
def columnMark (long : Bool) : List Char := if long then ", column ".toList else ", col ".toList

/-- A place in a file, by the digits of its line and of its column. -/
def placeText (long : Bool) (line column : List Char) : List Char :=
  lineMark ++ line ++ columnMark long ++ column

/-- Reads what stands before a column. -/
def columnMark? (allowed : Bool) (s : List Char) : Option (List Char) :=
  (Text.after? ", col".toList s).bind fun s =>
    Text.after? [' '] (if allowed then (Text.after? "umn".toList s).getD s else s)

/-- The long spelling is read where it is allowed, and the short one everywhere. -/
theorem columnMark?_eq_some_iff {allowed : Bool} {s rest : List Char} :
    columnMark? allowed s = some rest ↔
      ∃ long : Bool, (long = true → allowed = true) ∧ s = columnMark long ++ rest := by
  have hlong : columnMark true = ", col".toList ++ ("umn".toList ++ [' ']) := by decide
  have hshort : columnMark false = ", col".toList ++ [' '] := by decide
  simp only [columnMark?, Option.bind_eq_some_iff, after?_eq_some_iff]
  constructor
  · rintro ⟨tail, rfl, htail⟩
    cases allowed with
    | false => exact ⟨false, nofun, by rw [hshort, List.append_assoc, ← htail]; rfl⟩
    | true =>
      cases humn : Text.after? "umn".toList tail with
      | none =>
        rw [if_pos rfl, humn, Option.getD_none] at htail
        exact ⟨false, nofun, by rw [hshort, htail, List.append_assoc]⟩
      | some behind =>
        rw [if_pos rfl, humn, Option.getD_some] at htail
        rw [after?_eq_some_iff] at humn
        exact ⟨true, fun _ => rfl, by rw [hlong, humn, htail]; simp only [List.append_assoc]⟩
  · rintro ⟨long, hallowed, rfl⟩
    cases long with
    | true =>
      refine ⟨"umn".toList ++ ([' '] ++ rest), by rw [hlong]; simp only [List.append_assoc], ?_⟩
      rw [if_pos (hallowed rfl), after?_append, Option.getD_some]
    | false =>
      refine ⟨[' '] ++ rest, by rw [hshort, List.append_assoc], ?_⟩
      have hnone : Text.after? "umn".toList ([' '] ++ rest) = none := rfl
      rw [hnone, Option.getD_none, ite_self]

/-- A place is read part by part, the line before the column. -/
theorem place?_eq (allowed : Bool) (s : List Char) :
    place? allowed s =
      (Text.after? lineMark s).bind fun s => (Text.run? isDigit s).bind fun line =>
        (columnMark? allowed line.2).bind fun s => (Text.run? isDigit s).bind fun column =>
          some ((line.1, column.1), column.2) := by
  simp only [place?, columnMark?, Option.bind_eq_bind, Option.bind_assoc]
  rfl

/-- Neither spelling begins with a digit. -/
theorem ends_columnMark (long : Bool) (rest : List Char) : Ends isDigit (columnMark long ++ rest) := by
  cases long <;> exact ends_cons (by decide) _

/-- A place is read from just the texts that begin with one. -/
theorem place?_eq_some_iff {allowed : Bool} {s line column rest : List Char} :
    place? allowed s = some ((line, column), rest) ↔
      ∃ long : Bool, (long = true → allowed = true) ∧ s = placeText long line column ++ rest ∧
        IsRun isDigit line ∧ IsRun isDigit column ∧ Ends isDigit rest := by
  simp only [place?_eq, Option.bind_eq_some_iff, after?_eq_some_iff, columnMark?_eq_some_iff]
  constructor
  · rintro ⟨_, rfl, ⟨digits, behind⟩, hline, _, ⟨long, hallowed, rfl⟩, ⟨digits', behind'⟩, hcolumn,
      hread⟩
    obtain ⟨⟨rfl, rfl⟩, rfl⟩ : (digits = line ∧ digits' = column) ∧ behind' = rest := by
      simpa using hread
    obtain ⟨rfl, hdigits, -⟩ := run?_eq_some_iff.mp hline
    obtain ⟨rfl, hdigits', hrest⟩ := run?_eq_some_iff.mp hcolumn
    exact ⟨long, hallowed, by simp only [placeText, List.append_assoc], hdigits, hdigits', hrest⟩
  · rintro ⟨long, hallowed, rfl, hline, hcolumn, hrest⟩
    refine ⟨line ++ (columnMark long ++ (column ++ rest)), by simp only [placeText, List.append_assoc],
      (line, columnMark long ++ (column ++ rest)), ?_, column ++ rest, ⟨long, hallowed, rfl⟩,
      (column, rest), ?_, rfl⟩
    · exact run?_eq_some_iff.mpr ⟨rfl, hline, ends_columnMark long _⟩
    · exact run?_eq_some_iff.mpr ⟨rfl, hcolumn, hrest⟩

/-! ### Locations -/

namespace Spelled

/-- A location as text, its two columns spelled long or short. -/
def text (long longEnd : Bool) (p : Spelled) : List Char :=
  placeText long p.line p.column ++ " to ".toList ++ placeText longEnd p.endLine p.endColumn
    ++ " of module ".toList ++ p.moduleName

/-- The numbers of a location are digits and its module is a name. -/
structure WellFormed (p : Spelled) : Prop where
  line : IsRun isDigit p.line
  column : IsRun isDigit p.column
  endLine : IsRun isDigit p.endLine
  endColumn : IsRun isDigit p.endColumn
  moduleName : IsRun isWord p.moduleName

end Spelled

/-- A location is read from just the texts that begin with one. -/
theorem spelled?_eq_some_iff {allowed : Bool} {s rest : List Char} {p : Spelled} :
    spelled? allowed s = some (p, rest) ↔
      ∃ long longEnd : Bool, (long = true → allowed = true) ∧ (longEnd = true → allowed = true) ∧
        s = p.text long longEnd ++ rest ∧ p.WellFormed ∧ Ends isWord rest := by
  have hto (more : List Char) : Ends isDigit (" to ".toList ++ more) := ends_cons (by decide) _
  have hof (more : List Char) : Ends isDigit (" of module ".toList ++ more) :=
    ends_cons (by decide) _
  simp only [spelled?, Option.bind_eq_bind, Option.bind_eq_some_iff, after?_eq_some_iff]
  constructor
  · rintro ⟨⟨⟨line, column⟩, _⟩, hstart, _, rfl, ⟨⟨endLine, endColumn⟩, _⟩, hend, _, rfl,
      ⟨name, behind⟩, hname, hread⟩
    cases hread
    obtain ⟨long, hlong, rfl, hline, hcolumn, -⟩ := place?_eq_some_iff.mp hstart
    obtain ⟨longEnd, hlongEnd, rfl, hendLine, hendColumn, -⟩ := place?_eq_some_iff.mp hend
    obtain ⟨rfl, hmodule, hrest⟩ := run?_eq_some_iff.mp hname
    exact ⟨long, longEnd, hlong, hlongEnd, by simp only [Spelled.text, List.append_assoc],
      ⟨hline, hcolumn, hendLine, hendColumn, hmodule⟩, hrest⟩
  · rintro ⟨long, longEnd, hlong, hlongEnd, rfl, hp, hrest⟩
    refine ⟨((p.line, p.column), _), place?_eq_some_iff.mpr
        ⟨long, hlong, by simp only [Spelled.text, List.append_assoc], hp.line, hp.column, hto _⟩,
      _, rfl, ((p.endLine, p.endColumn), _), place?_eq_some_iff.mpr
        ⟨longEnd, hlongEnd, rfl, hp.endLine, hp.endColumn, hof _⟩,
      _, rfl, (p.moduleName, rest), run?_eq_some_iff.mpr ⟨rfl, hp.moduleName, hrest⟩, rfl⟩

/-- Whether a location stands at the front of a text, with columns in either spelling. -/
def Begins (s : List Char) : Prop :=
  ∃ (p : Spelled) (long longEnd : Bool) (rest : List Char),
    p.WellFormed ∧ s = p.text long longEnd ++ rest

/-- A location begins with the first letter of the word for its line. -/
theorem Begins.head? {s : List Char} (h : Begins s) : s.head? = some 'l' := by
  obtain ⟨p, long, longEnd, rest, -, rfl⟩ := h
  simp only [Spelled.text, placeText, List.append_assoc]
  rfl

/-- No location begins in a text without that letter, whatever stands behind the text. -/
theorem not_begins_of_not_mem {front rest q : List Char} (hfront : 'l' ∉ front) (hq : q ≠ [])
    (hsuffix : q <:+ front) : ¬Begins (q ++ rest) := by
  intro hbegins
  obtain ⟨c, tail, rfl⟩ := List.exists_cons_of_ne_nil hq
  have hc : c = 'l' := by simpa using hbegins.head?
  exact hfront (hc ▸ hsuffix.mem List.mem_cons_self)

/-- No location is read where none begins. -/
theorem spelled?_eq_none {s : List Char} (h : ¬Begins s) : spelled? true s = none := by
  refine Option.eq_none_iff_forall_not_mem.mpr fun ⟨p, rest⟩ hread => ?_
  obtain ⟨long, longEnd, -, -, htext, hp, -⟩ := spelled?_eq_some_iff.mp hread
  exact h ⟨p, long, longEnd, rest, hp, htext⟩

/-- The leftmost location in a text is the one that is found, if its numbers fit. -/
theorem find?_of_leftmost {front rest : List Char} {p : Spelled} {long longEnd : Bool}
    (hp : p.WellFormed) (hrest : Ends isWord rest)
    (hfirst : ∀ q, q ≠ [] → q <:+ front → ¬Begins (q ++ (p.text long longEnd ++ rest))) :
    find? (front ++ (p.text long longEnd ++ rest)) =
      p.range?.map fun range => ⟨String.ofList p.moduleName, range⟩ := by
  have hread : spelled? true (p.text long longEnd ++ rest) = some (p, rest) :=
    spelled?_eq_some_iff.mpr ⟨long, longEnd, fun _ => rfl, fun _ => rfl, rfl, hp, hrest⟩
  have hfound : Text.leftmost? (spelled? true) (front ++ (p.text long longEnd ++ rest)) =
      some (p, rest) := by
    rw [Text.leftmost?_append fun q hq hsuffix => spelled?_eq_none (hfirst q hq hsuffix),
      Text.leftmost?_of_some hread]
  simp only [find?, hfound, Option.bind_eq_bind, Option.bind_some]
  cases p.range? <;> rfl

/-! ### Numbers -/

/-- Places come in the order of their lines, and within a line in that of their columns. -/
instance : LE Position where
  le p q := p.line < q.line ∨ p.line = q.line ∧ p.column ≤ q.column

instance : DecidableLE Position := fun p q =>
  inferInstanceAs (Decidable (p.line < q.line ∨ p.line = q.line ∧ p.column ≤ q.column))

/-- A location by its numbers, counted from one, and its module. -/
structure Numbered where
  line : Nat
  column : Nat
  endLine : Nat
  endColumn : Nat
  moduleName : List Char

namespace Numbered

variable (n : Numbered)

/-- The location as it is written, in decimal digits. -/
def spelled : Spelled :=
  ⟨Text.decimal n.line, Text.decimal n.column, Text.decimal n.endLine, Text.decimal n.endColumn,
    n.moduleName⟩

/-- The range of the location, counted from zero, its end behind the last column. -/
def range : Range := ⟨⟨n.line - 1, n.column - 1⟩, ⟨n.endLine - 1, n.endColumn⟩⟩

/-- Whether all numbers are below `2 ^ 32`. -/
def Fits : Prop :=
  n.line < 4294967296 ∧ n.column < 4294967296 ∧ n.endLine < 4294967296 ∧ n.endColumn < 4294967296

instance : Decidable n.Fits := inferInstanceAs (Decidable (_ ∧ _))

variable {n}

/-- Numbers are spelled with digits, so what is written for them has the parts of a location. -/
theorem wellFormed_spelled (h : IsRun isWord n.moduleName) : n.spelled.WellFormed :=
  ⟨Text.isRun_decimal _, Text.isRun_decimal _, Text.isRun_decimal _, Text.isRun_decimal _, h⟩

/-- The range is read from the location as it is written, unless a number does not fit. -/
theorem range?_spelled (n : Numbered) :
    n.spelled.range? = if n.Fits then some n.range else none := by
  simp only [Spelled.range?, spelled, Text.readNat32?, Text.readNat?_decimal_eq, Fits]
  by_cases hline : n.line < 4294967296
  · by_cases hcolumn : n.column < 4294967296
    · by_cases hendLine : n.endLine < 4294967296
      · by_cases hendColumn : n.endColumn < 4294967296
        · simp [hline, hcolumn, hendLine, hendColumn, range, Range.ofOneBased]
        · simp [hline, hcolumn, hendLine, hendColumn]
      · simp [hline, hcolumn, hendLine]
    · simp [hline, hcolumn]
  · simp [hline]

/-- Whether all numbers are counted from one and the end is not before the start. -/
structure Ordered (n : Numbered) : Prop where
  line : 1 ≤ n.line
  column : 1 ≤ n.column
  endLine : 1 ≤ n.endLine
  endColumn : 1 ≤ n.endColumn
  le : (⟨n.line, n.column⟩ : Position) ≤ ⟨n.endLine, n.endColumn⟩

/-- The range of such a location does not end before it starts. -/
theorem Ordered.start_le_stop (h : n.Ordered) : n.range.start ≤ n.range.stop := by
  have hline := h.line
  have hle : n.line < n.endLine ∨ n.line = n.endLine ∧ n.column ≤ n.endColumn := h.le
  have hrange : n.line - 1 < n.endLine - 1 ∨
      n.line - 1 = n.endLine - 1 ∧ n.column - 1 ≤ n.endColumn := by omega
  exact hrange

/-- On one line it has as many columns as are counted from the first to the last one. -/
theorem Ordered.columns (h : n.Ordered) (hline : n.line = n.endLine) :
    n.range.stop.line = n.range.start.line ∧
      n.range.stop.column = n.range.start.column + (n.endColumn - n.column + 1) := by
  have hcolumn := h.column
  have hle : n.line < n.endLine ∨ n.line = n.endLine ∧ n.column ≤ n.endColumn := h.le
  constructor
  · simp only [range, hline]
  · simp only [range]
    omega

end Numbered

end ModelCheck.Location
