import ModelCheck.Console.Render
import ModelCheck.Proofs.Output.Coverage
import ModelCheck.Proofs.Report.Coverage

/-!
# Locations from output to summary

A location is read from coverage lines and from the text of errors, and both readings give the range that
its numbers stand for. The summary counts lines from one again: for an action that was never taken it
shows the line that the checker gave, and one in place of zero.
-/

namespace ModelCheck

namespace Console

variable {c : Coverage} {s : Snapshot}

/-- The summary shows the number that the line of the range was read from, one in place of zero. -/
theorem neverEnabledLine_eq {line : Nat} (h : c.range.start.line = line - 1) (m : Markers) :
    neverEnabledLine m c = "  " ++ m.warn ++ " " ++ c.moduleName ++ "!" ++ c.action ++ " (line "
      ++ toString (max line 1) ++ ")" := by
  have hshown : c.range.start.line + 1 = max line 1 := by omega
  rw [neverEnabledLine, hshown]

/-- An action that was never taken has its line in the summary. -/
theorem neverEnabledLine_mem (hc : c ∈ s.coverage) (htotal : c.total = 0) (m : Markers) :
    neverEnabledLine m c ∈ summaryLines m (some s) := by
  have hnever : c ∈ s.coverage.filter fun c => c.total = 0 :=
    List.mem_filter.mpr ⟨hc, decide_eq_true htotal⟩
  have hcoverage : neverEnabledLine m c ∈ coverageLines m s.coverage := by
    rw [coverageLines, if_neg (by simpa using List.ne_nil_of_mem hc)]
    exact List.mem_cons_of_mem _ (List.mem_map_of_mem hnever)
  simp only [summaryLines, List.mem_append]
  exact .inl (.inl (.inr hcoverage))

end Console

namespace Output

open Console (Markers neverEnabledLine summaryLines)
open Location (Begins Numbered)
open Text (Ends IsRun isBlank isDigit isWord)

/-- What has been read before is among what has been read in the end. -/
theorem messages_mono {front inputs : List Input} (h : front <+: inputs) :
    messages front ⊆ messages inputs := by
  obtain ⟨rest, rfl⟩ := h
  rw [messages, messages, applied_append, List.map_append]
  exact List.subset_append_left _ _

/-- An action in a delivered snapshot comes from a line of a notice, so its line can be counted from one,
and the summary shows the number that stands there. -/
theorem coverage_from_line {file : Path} {limit : Nat} {zone : Zone} {inputs : List Input} {s : Snapshot}
    {c : Coverage} (hs : s ∈ (start file limit zone).delivered inputs) (hc : c ∈ s.coverage) :
    c.range.start.line + 1 < 4294967296 ∧
      ∃ m ∈ messages inputs, m.IsNotice ∧
        ∃ (blank rest : List Char) (e : Coverage.Spelled) (line : Nat),
          (∀ b ∈ blank, isBlank b = true) ∧ e.WellFormed ∧ blank ++ (e.text ++ rest) ∈ m.lines ∧
            Coverage.parse? (blank ++ (e.text ++ rest)) = some c ∧
            Text.readNat32? e.place.line = some line ∧
            ∀ markers, neverEnabledLine markers c = "  " ++ markers.warn ++ " " ++
              String.ofList e.place.moduleName ++ "!" ++ String.ofList e.action ++ " (line " ++
              toString (max line 1) ++ ")" := by
  obtain ⟨front, hfront, rfl⟩ := mem_delivered hs
  obtain ⟨m, hm, hnotice, text, htext, hparse⟩ := exists_line_of_coverage hc
  obtain ⟨blank, rest, e, hblank, rfl, he, hread⟩ := Coverage.exists_of_parse? hparse
  obtain ⟨line, hline, hfits, hstart, hmodule, haction⟩ := Coverage.line_of_coverage? hread
  refine ⟨by omega, m, messages_mono hfront hm, hnotice, blank, rest, e, line, hblank, he, htext,
    hparse, hline, fun markers => ?_⟩
  rw [Console.neverEnabledLine_eq hstart, hmodule, haction]

/-- Coverage is read from a line that begins with it, behind blank characters and whatever follows, and
a location from any text, the leftmost one and in either spelling: the same range for the same numbers,
counted from zero, or nothing if a number does not fit. If the numbers are counted from one and the end is
not before the start, the range does not end before it starts, and on one line it has the columns from the
first to the last.
In every snapshot that is delivered, the line of an action that was never taken can be counted from one
without passing the bound for lines, and the summary shows it as the checker gave it, one in place of
zero. -/
theorem locations_exact (file : Path) (limit : Nat) (zone : Zone) (inputs : List Input) :
    (∀ (blank action rest : List Char) (n : Numbered) (distinct total : Nat),
      (∀ b ∈ blank, isBlank b = true) → IsRun isWord action → IsRun isWord n.moduleName →
        Ends isDigit rest →
          Coverage.parse? (blank ++ (Coverage.lineText action n distinct total ++ rest)) =
            if n.Fits ∧ distinct < 18446744073709551616 ∧ total < 18446744073709551616 then
              some ⟨String.ofList n.moduleName, String.ofList action, n.range, distinct, total⟩
            else none) ∧
      (∀ (front rest : List Char) (n : Numbered) (long longEnd : Bool),
        IsRun isWord n.moduleName → Ends isWord rest →
          (∀ q, q ≠ [] → q <:+ front → ¬Begins (q ++ (n.spelled.text long longEnd ++ rest))) →
            Location.find? (front ++ (n.spelled.text long longEnd ++ rest)) =
              if n.Fits then some ⟨String.ofList n.moduleName, n.range⟩ else none) ∧
      (∀ n : Numbered, n.Ordered →
        n.range.start ≤ n.range.stop ∧
          (n.line = n.endLine → n.range.stop.line = n.range.start.line ∧
            n.range.stop.column = n.range.start.column + (n.endColumn - n.column + 1))) ∧
      ∀ s ∈ (start file limit zone).delivered inputs, ∀ c ∈ s.coverage,
        c.range.start.line + 1 < 4294967296 ∧
          (∀ markers, c.total = 0 → neverEnabledLine markers c ∈ summaryLines markers (some s)) ∧
          ∃ m ∈ messages inputs, m.IsNotice ∧
            ∃ (blank rest : List Char) (e : Coverage.Spelled) (line : Nat),
              (∀ b ∈ blank, isBlank b = true) ∧ e.WellFormed ∧
                blank ++ (e.text ++ rest) ∈ m.lines ∧
                Coverage.parse? (blank ++ (e.text ++ rest)) = some c ∧
                Text.readNat32? e.place.line = some line ∧
                ∀ markers, neverEnabledLine markers c = "  " ++ markers.warn ++ " " ++
                  String.ofList e.place.moduleName ++ "!" ++ String.ofList e.action ++ " (line " ++
                  toString (max line 1) ++ ")" := by
  refine ⟨?_, ?_, fun n hn => ⟨hn.start_le_stop, hn.columns⟩, ?_⟩
  · intro blank action rest n distinct total hblank haction hmodule hrest
    exact Coverage.parse?_lineText hblank haction hmodule hrest distinct total
  · intro front rest n long longEnd hmodule hrest hfirst
    rw [Location.find?_of_leftmost (Numbered.wellFormed_spelled hmodule) hrest hfirst,
      Numbered.range?_spelled]
    split <;> rfl
  · intro s hs c hc
    obtain ⟨hfits, hline⟩ := coverage_from_line hs hc
    exact ⟨hfits, fun markers htotal => Console.neverEnabledLine_mem hc htotal markers, hline⟩

/-- The lines of a coverage report with an action at line zero. -/
def lineZero : List Input :=
  [.line default "@!@!@STARTMSG 2201:0 @!@!@".toList,
    .line default "The coverage statistics at 2024-01-02 10:11:13".toList,
    .line default "@!@!@ENDMSG 2201 @!@!@".toList,
    .line default "@!@!@STARTMSG 2772:0 @!@!@".toList,
    .line default "<Stop line 0, col 1 to line 0, col 4 of module Queue>: 0:0".toList,
    .line default "@!@!@ENDMSG 2772 @!@!@".toList]

/-- The coverage that is read from them. -/
def stopCoverage : Coverage := ⟨"Queue", "Stop", ⟨⟨0, 0⟩, ⟨0, 4⟩⟩, 0, 0⟩

/-- A location is read with its columns spelled short and long, and line zero is shown as one. -/
theorem lineZero_shown :
    let s := ((start ⟨"/specs/Queue.tla"⟩).after lineZero).snapshot
    let n : Numbered := ⟨12, 3, 12, 40, "Queue".toList⟩
    Coverage.parse?
        "  <Next line 12, col 3 to line 12, col 40 of module Queue>: 7:0 (slow)".toList =
        some ⟨"Queue", "Next", ⟨⟨11, 2⟩, ⟨11, 40⟩⟩, 7, 0⟩ ∧
      Location.find?
        "Stuck in front of line 12, column 3 to line 12, col 40 of module Queue.".toList =
        some ⟨"Queue", ⟨⟨11, 2⟩, ⟨11, 40⟩⟩⟩ ∧
      n.range.stop.column = n.range.start.column + 38 ∧
      stopCoverage ∈ s.coverage ∧
      stopCoverage.range.start.line + 1 < 4294967296 ∧
      "  ! Queue!Stop (line 1)" ∈ summaryLines .ascii (some s) := by
  intro s n
  obtain ⟨hcoverage, hlocation, hrange, hshown⟩ :=
    locations_exact ⟨"/specs/Queue.tla"⟩ defaultTailLimit .utc lineZero
  have hname : IsRun isWord "Queue".toList := by decide +kernel
  have hline : "  <Next line 12, col 3 to line 12, col 40 of module Queue>: 7:0 (slow)".toList =
      "  ".toList ++ (Coverage.lineText "Next".toList n 7 0 ++ " (slow)".toList) := by
    decide +kernel
  have htext : "Stuck in front of line 12, column 3 to line 12, col 40 of module Queue.".toList =
      "Stuck in front of ".toList ++ (n.spelled.text true false ++ ".".toList) := by
    decide +kernel
  have hread := hcoverage "  ".toList "Next".toList " (slow)".toList n 7 0
    (List.all_eq_true.mp (by decide +kernel)) (by decide +kernel) hname (by decide +kernel)
  have hfound := hlocation "Stuck in front of ".toList ".".toList n true false hname
    (by decide +kernel) fun q hq hsuffix =>
      Location.not_begins_of_not_mem (by decide +kernel) hq hsuffix
  have hcolumns := (hrange n ⟨by decide, by decide, by decide, by decide, by decide⟩).2 rfl
  have hdelivered : s ∈ (start ⟨"/specs/Queue.tla"⟩).delivered lineZero := by decide +kernel
  have hstop : stopCoverage ∈ s.coverage := by decide +kernel
  obtain ⟨hfits, hnever, -⟩ := hshown s hdelivered stopCoverage hstop
  have hsummary : "  ! Queue!Stop (line 1)" = neverEnabledLine .ascii stopCoverage := by
    decide +kernel
  exact ⟨hline ▸ hread, htext ▸ hfound, hcolumns.2, hstop, hfits, hsummary ▸ hnever .ascii rfl⟩

end Output

end ModelCheck
