import ModelCheck.Proofs.Report.Spelling
import ModelCheck.Report.Coverage

/-!
# Coverage lines as they are written

A coverage line names an action, its location and two counts. It is read from a line that begins with it,
behind blank characters, whatever follows; nothing is read if one of its numbers does not fit.
-/

namespace ModelCheck.Coverage

open Text (IsRun Ends after?_append after?_eq_some_iff ends_cons isBlank isDigit isWord run?_eq_some_iff)

/-- A coverage line with its numbers unread. -/
structure Spelled where
  action : List Char
  place : Location.Spelled
  distinct : List Char
  total : List Char

namespace Spelled

/-- The line as text. -/
def text (e : Spelled) : List Char :=
  '<' :: (e.action ++ ' ' :: (e.place.text false false ++ (">: ".toList ++ (e.distinct ++ ':' ::
    e.total))))

/-- The action has a name, the location is one, and the counts are digits. -/
structure WellFormed (e : Spelled) : Prop where
  action : IsRun isWord e.action
  place : e.place.WellFormed
  distinct : IsRun isDigit e.distinct
  total : IsRun isDigit e.total

/-- The coverage that a line reports, if all its numbers fit. -/
def coverage? (e : Spelled) : Option Coverage := do
  pure {
    moduleName := String.ofList e.place.moduleName
    action := String.ofList e.action
    range := ← e.place.range?
    distinct := ← Text.readNat64? e.distinct
    total := ← Text.readNat64? e.total }

end Spelled

/-- Reads a coverage line without its numbers. -/
def spelled? (line : List Char) : Option (Spelled × List Char) :=
  (Text.after? ['<'] (line.dropWhile isBlank)).bind fun s =>
  (Text.run? isWord s).bind fun action =>
  (Text.after? [' '] action.2).bind fun s =>
  (Location.spelled? false s).bind fun place =>
  (Text.after? ">: ".toList place.2).bind fun s =>
  (Text.run? isDigit s).bind fun distinct =>
  (Text.after? [':'] distinct.2).bind fun s =>
  (Text.run? isDigit s).bind fun total =>
    some (⟨action.1, place.1, distinct.1, total.1⟩, total.2)

/-- A line is read in two steps, first its parts and then their numbers. -/
theorem parse?_eq (line : List Char) :
    parse? line = (spelled? line).bind fun e => e.1.coverage? := by
  simp only [parse?, spelled?, Option.bind_eq_bind, Option.bind_assoc, Option.bind_some]
  rfl

/-- What stands behind the blank characters at the front of a line. -/
theorem after?_dropBlank_eq_some_iff {c : Char} (hc : isBlank c = false) {line rest : List Char} :
    Text.after? [c] (line.dropWhile isBlank) = some rest ↔
      ∃ blank, (∀ b ∈ blank, isBlank b = true) ∧ line = blank ++ c :: rest := by
  rw [after?_eq_some_iff]
  constructor
  · intro h
    refine ⟨line.takeWhile isBlank, fun b hb => List.all_eq_true.mp List.all_takeWhile b hb, ?_⟩
    rw [← List.singleton_append, ← h, List.takeWhile_append_dropWhile]
  · rintro ⟨blank, hblank, rfl⟩
    rw [List.dropWhile_append_of_pos hblank, List.dropWhile_cons_of_neg (by simp [hc])]
    rfl

/-- A coverage line is read from a line that begins with it, behind blank characters. -/
theorem spelled?_text {blank rest : List Char} {e : Spelled}
    (hblank : ∀ b ∈ blank, isBlank b = true) (he : e.WellFormed) (hrest : Ends isDigit rest) :
    spelled? (blank ++ (e.text ++ rest)) = some (e, rest) := by
  let behindDistinct := [':'] ++ (e.total ++ rest)
  let behindPlace := ">: ".toList ++ (e.distinct ++ behindDistinct)
  let behindAction := [' '] ++ (e.place.text false false ++ behindPlace)
  have hopen : Text.after? ['<'] ((blank ++ (e.text ++ rest)).dropWhile isBlank) =
      some (e.action ++ behindAction) := by
    refine (after?_dropBlank_eq_some_iff (by decide)).mpr ⟨blank, hblank, ?_⟩
    simp [Spelled.text, behindAction, behindPlace, behindDistinct]
  have haction : Text.run? isWord (e.action ++ behindAction) = some (e.action, behindAction) :=
    run?_eq_some_iff.mpr ⟨rfl, he.action, ends_cons (by decide) _⟩
  have hplace : Location.spelled? false (e.place.text false false ++ behindPlace) =
      some (e.place, behindPlace) :=
    Location.spelled?_eq_some_iff.mpr
      ⟨false, false, nofun, nofun, rfl, he.place, ends_cons (by decide) _⟩
  have hdistinct : Text.run? isDigit (e.distinct ++ behindDistinct) =
      some (e.distinct, behindDistinct) :=
    run?_eq_some_iff.mpr ⟨rfl, he.distinct, ends_cons (by decide) _⟩
  have htotal : Text.run? isDigit (e.total ++ rest) = some (e.total, rest) :=
    run?_eq_some_iff.mpr ⟨rfl, he.total, hrest⟩
  have hblank' : Text.after? [' '] behindAction = some (e.place.text false false ++ behindPlace) :=
    after?_append _ _
  have hclose : Text.after? ">: ".toList behindPlace = some (e.distinct ++ behindDistinct) :=
    after?_append _ _
  have hcolon : Text.after? [':'] behindDistinct = some (e.total ++ rest) := after?_append _ _
  simp only [spelled?, hopen, haction, hblank', hplace, hclose, hdistinct, hcolon, htotal,
    Option.bind_some]

/-- Nothing else is taken for a coverage line. -/
theorem exists_of_spelled? {line rest : List Char} {e : Spelled}
    (h : spelled? line = some (e, rest)) :
    ∃ blank, (∀ b ∈ blank, isBlank b = true) ∧ line = blank ++ (e.text ++ rest) ∧ e.WellFormed := by
  simp only [spelled?, Option.bind_eq_some_iff, after?_dropBlank_eq_some_iff (c := '<') (by decide),
    after?_eq_some_iff] at h
  obtain ⟨_, ⟨blank, hblank, rfl⟩, ⟨action, _⟩, hreadAction, _, rfl, ⟨place, _⟩, hreadPlace, _, rfl,
    ⟨distinct, _⟩, hreadDistinct, _, rfl, ⟨total, behind⟩, hreadTotal, hread⟩ := h
  cases hread
  obtain ⟨rfl, haction, -⟩ := run?_eq_some_iff.mp hreadAction
  obtain ⟨long, longEnd, hlong, hlongEnd, rfl, hplace, -⟩ :=
    Location.spelled?_eq_some_iff.mp hreadPlace
  obtain rfl : long = false := by simpa using hlong
  obtain rfl : longEnd = false := by simpa using hlongEnd
  obtain ⟨rfl, hdistinct, -⟩ := run?_eq_some_iff.mp hreadDistinct
  obtain ⟨rfl, htotal, -⟩ := run?_eq_some_iff.mp hreadTotal
  refine ⟨blank, hblank, ?_, ⟨haction, hplace, hdistinct, htotal⟩⟩
  simp [Spelled.text]

/-- What is read from a line that begins with a coverage line is what its numbers come to. -/
theorem parse?_text {blank rest : List Char} {e : Spelled}
    (hblank : ∀ b ∈ blank, isBlank b = true) (he : e.WellFormed) (hrest : Ends isDigit rest) :
    parse? (blank ++ (e.text ++ rest)) = e.coverage? := by
  rw [parse?_eq, spelled?_text hblank he hrest, Option.bind_some]

/-- Coverage is read only from a line that begins with a coverage line. -/
theorem exists_of_parse? {line : List Char} {c : Coverage} (h : parse? line = some c) :
    ∃ (blank rest : List Char) (e : Spelled), (∀ b ∈ blank, isBlank b = true) ∧
      line = blank ++ (e.text ++ rest) ∧ e.WellFormed ∧ e.coverage? = some c := by
  rw [parse?_eq, Option.bind_eq_some_iff] at h
  obtain ⟨⟨e, rest⟩, hread, hc⟩ := h
  obtain ⟨blank, hblank, hline, he⟩ := exists_of_spelled? hread
  exact ⟨blank, rest, e, hblank, hline, he, hc⟩

/-! ### Numbers -/

/-- The line for an action at a place, with the numbers of its distinct states and of all of them. -/
def lineText (action : List Char) (n : Location.Numbered) (distinct total : Nat) : List Char :=
  (⟨action, n.spelled, Text.decimal distinct, Text.decimal total⟩ : Spelled).text

/-- The coverage is read from its line, unless a number does not fit. -/
theorem parse?_lineText {blank action rest : List Char} {n : Location.Numbered}
    (hblank : ∀ b ∈ blank, isBlank b = true) (haction : IsRun isWord action)
    (hn : IsRun isWord n.moduleName) (hrest : Ends isDigit rest) (distinct total : Nat) :
    parse? (blank ++ (lineText action n distinct total ++ rest)) =
      if n.Fits ∧ distinct < 18446744073709551616 ∧ total < 18446744073709551616 then
        some ⟨String.ofList n.moduleName, String.ofList action, n.range, distinct, total⟩
      else none := by
  rw [lineText, parse?_text hblank ⟨haction, Location.Numbered.wellFormed_spelled hn,
    Text.isRun_decimal distinct, Text.isRun_decimal total⟩ hrest]
  simp only [Spelled.coverage?, Location.Numbered.range?_spelled, Text.readNat64?,
    Text.readNat?_decimal_eq]
  by_cases hfits : n.Fits
  · by_cases hdistinct : distinct < 18446744073709551616
    · by_cases htotal : total < 18446744073709551616
      · simp [hfits, hdistinct, htotal, Location.Numbered.spelled]
      · simp [hfits, hdistinct, htotal]
    · simp [hfits, hdistinct]
  · simp [hfits]

/-- The coverage names its action and module as they are written, and its range starts at the number
of the first line, less one. -/
theorem line_of_coverage? {e : Spelled} {c : Coverage} (h : e.coverage? = some c) :
    ∃ line, Text.readNat32? e.place.line = some line ∧ line < 4294967296 ∧
      c.range.start.line = line - 1 ∧ c.moduleName = String.ofList e.place.moduleName ∧
      c.action = String.ofList e.action := by
  simp only [Spelled.coverage?, Location.Spelled.range?, Option.bind_eq_bind,
    Option.bind_eq_some_iff] at h
  obtain ⟨range, ⟨line, hline, column, -, endLine, -, endColumn, -, hrange⟩, distinct, -, total, -,
    hc⟩ := h
  cases hrange
  cases hc
  exact ⟨line, hline, Text.lt_of_readNat? hline, rfl, rfl, rfl⟩

end ModelCheck.Coverage
