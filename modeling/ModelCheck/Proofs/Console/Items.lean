import ModelCheck.Console
import ModelCheck.Proofs.Output.Errors
import ModelCheck.Proofs.Text.Groups
import ModelCheck.Proofs.Text.Lines

/-!
# The lines of an update

Every line that an update prints is about one item of the snapshot: its phase, a report, a warning, an
error or the verdict. It is one line whatever text the item has, and the line for an error does not
change when more text is added to the error.
-/

namespace ModelCheck

/-! ### First lines of errors -/

namespace ReportedError

/-- An error with the text of more headers goes on with the one without. -/
theorem continues_reported (m : Message) (headers : List Message) :
    (m.reported []).Continues (m.reported headers) := by
  induction headers using List.reverseRecOn with
  | nil => exact .refl _
  | append_singleton front header ih =>
    refine ih.trans ⟨rfl, rfl, .inr ⟨header.trimmedText, ?_⟩⟩
    simp [Message.reported]

/-- An error on the list is a message with the texts of the headers that came behind it. -/
theorem exists_reported_of_mem {messages : List Message} {e : ReportedError}
    (h : e ∈ ofMessages messages) : ∃ (m : Message) (headers : List Message), e = m.reported headers := by
  induction messages with
  | nil => cases h
  | cons first rest ih =>
    rw [ofMessages] at h
    split at h
    · rcases List.mem_cons.mp h with rfl | h
      · exact ⟨first, _, rfl⟩
      · exact ih h
    · exact ih h

/-- The first line of an error is that of the trimmed text of its message, whatever has been added. -/
theorem firstLine_of_continues {m : Message} {e : ReportedError}
    (h : (m.reported []).Continues e) : Text.firstLine e.message = Text.firstLine m.trimmedText := by
  have htrimmed : m.trimmedText.toList.getLast? ≠ some '\r' := by
    rw [Message.trimmedText, String.toList_ofList]
    exact Text.trim_not_return _
  rcases h.message with hsame | ⟨more, hmore⟩
  · rw [hsame]
    rfl
  · rw [hmore]
    exact Text.firstLine_append htrimmed more

/-- The line for an error stays the same when its message goes on. -/
theorem errorLine_of_continues {messages : List Message} {e e' : ReportedError}
    (he : e ∈ ofMessages messages) (h : e.Continues e') (m : Console.Markers) :
    Console.errorLine m e' = Console.errorLine m e := by
  obtain ⟨message, headers, rfl⟩ := exists_reported_of_mem he
  have hfirst := continues_reported message headers
  rw [Console.errorLine, Console.errorLine, h.code, firstLine_of_continues (hfirst.trans h),
    firstLine_of_continues hfirst]

/-- The lines for errors that grow are the earlier ones and others behind them. -/
theorem errorLines_prefix {messages : List Message} {es' : List ReportedError}
    (h : Grow (ofMessages messages) es') (m : Console.Markers) :
    (ofMessages messages).map (Console.errorLine m) <+: es'.map (Console.errorLine m) := by
  refine List.prefix_iff_getElem?.mpr fun i hi => ?_
  rw [List.length_map] at hi
  obtain ⟨e', he', hcontinues⟩ := h.continued i _ (List.getElem?_eq_getElem hi)
  rw [List.getElem?_map, he', List.getElem_map, Option.map_some,
    errorLine_of_continues (List.getElem_mem hi) hcontinues]

end ReportedError

namespace Console

/-! ### Items -/

/-- What a line of an update is about. -/
inductive Item where
  | phase (p : Phase)
  | progress (report : Statistics)
  | warning (text : String)
  | error (e : ReportedError)
  | verdict (s : Snapshot)

namespace Item

/-- The line for an item. -/
def line (m : Markers) : Item → String
  | .phase p => m.bullet ++ " " ++ phaseLabel p
  | .progress p => "  " ++ progressText p
  | .warning w => warningLine m w
  | .error e => errorLine m e
  | .verdict s => verdictLine m s

/-- The phase that an item tells. -/
def phase? : Item → Option Phase
  | .phase p => some p
  | _ => none

/-- The progress report that an item is. -/
def progress? : Item → Option Statistics
  | .progress p => some p
  | _ => none

/-- The warning that an item is. -/
def warning? : Item → Option String
  | .warning w => some w
  | _ => none

/-- The verdict that an item tells. -/
def verdict? : Item → Option (Option Verdict)
  | .verdict s => some s.verdict
  | _ => none

/-- The line of an item that is an error. -/
def errorLine? (m : Markers) : Item → Option String
  | .error e => some (errorLine m e)
  | _ => none

end Item

/-- What a snapshot adds to what has been printed. -/
def newItems (c : Cursor) (s : Snapshot) : List Item :=
  (if s.phase = c.phase then [] else [.phase s.phase])
    ++ (s.progress.drop c.progress).map .progress
    ++ (s.warnings.drop c.warnings).map .warning
    ++ (s.errors.drop c.errors).map .error
    ++ (if verdictDue c s then [.verdict s] else [])

/-- An update prints a line for each new item. -/
theorem updateLines_eq (m : Markers) (c : Cursor) (s : Snapshot) :
    updateLines m c s = (newItems c s).map (Item.line m) := by
  have hphase : (if s.phase = c.phase then [] else [m.bullet ++ " " ++ phaseLabel s.phase]) =
      (if s.phase = c.phase then [] else [Item.phase s.phase]).map (Item.line m) := by
    split <;> rfl
  have hverdict : (if verdictDue c s then [verdictLine m s] else []) =
      (if verdictDue c s then [Item.verdict s] else []).map (Item.line m) := by
    split <;> rfl
  rw [updateLines, newItems, hphase, hverdict]
  simp only [List.map_append, List.map_map]
  rfl

/-- What is selected from new items is selected from each kind of them. -/
theorem filterMap_newItems {β : Type} (f : Item → Option β) (c : Cursor) (s : Snapshot) :
    (newItems c s).filterMap f =
      (if s.phase = c.phase then [] else (f (.phase s.phase)).toList)
        ++ (s.progress.drop c.progress).filterMap (fun p => f (.progress p))
        ++ (s.warnings.drop c.warnings).filterMap (fun w => f (.warning w))
        ++ (s.errors.drop c.errors).filterMap (fun e => f (.error e))
        ++ (if verdictDue c s then (f (.verdict s)).toList else []) := by
  have hone : ∀ i, [i].filterMap f = (f i).toList := by
    intro i
    cases hi : f i <;> simp [hi]
  unfold newItems
  simp only [List.filterMap_append, List.filterMap_map, apply_ite (List.filterMap f), hone,
    List.filterMap_nil, Function.comp_def]

/-- A verdict is told where it is due. -/
theorem verdicts_newItems (c : Cursor) (s : Snapshot) :
    (newItems c s).filterMap Item.verdict? = if verdictDue c s then [s.verdict] else [] := by
  rw [filterMap_newItems]
  simp [Item.verdict?]

/-- A verdict that is due has been told after the snapshot. -/
theorem verdict_advance_of_due {c : Cursor} {s : Snapshot} (h : verdictDue c s = true) :
    (c.advance s).verdict = s.verdict := if_pos h

/-- Where no verdict is due, the one that was told before is still the last one. -/
theorem verdict_advance_of_not_due {c : Cursor} {s : Snapshot} (h : ¬verdictDue c s = true) :
    (c.advance s).verdict = c.verdict := if_neg h

/-- What has been shown is not shown again. -/
theorem newItems_advance (c : Cursor) (s : Snapshot) : newItems (c.advance s) s = [] := by
  have hdue : verdictDue (c.advance s) s = false := by
    by_cases hshown : verdictDue c s = true
    · simp [verdictDue, verdict_advance_of_due hshown]
    · rw [verdictDue, verdict_advance_of_not_due hshown]
      exact Bool.eq_false_iff.mpr hshown
  have hphase : (c.advance s).phase = s.phase := rfl
  have hprogress : (c.advance s).progress = s.progress.length := rfl
  have hwarnings : (c.advance s).warnings = s.warnings.length := rfl
  have herrors : (c.advance s).errors = s.errors.length := rfl
  simp [newItems, hdue, hphase, hprogress, hwarnings, herrors]

/-- A snapshot that has been counted does not move the cursor again. -/
theorem advance_advance (c : Cursor) (s : Snapshot) : (c.advance s).advance s = c.advance s := by
  have hverdict : (if verdictDue (c.advance s) s then s.verdict else (c.advance s).verdict) =
      (c.advance s).verdict := by
    split
    · have hnew := newItems_advance c s
      simp_all [newItems]
    · rfl
  rw [Cursor.advance, hverdict]
  rfl

/-- To show a snapshot twice is to show it once. -/
theorem update_update (k : Console) (s : Snapshot) : (k.update s).update s = k.update s := by
  have hlines : updateLines k.markers (k.cursor.advance s) s = [] := by
    rw [updateLines_eq, newItems_advance, List.map_nil]
  simp only [update, print, hlines, advance_advance]
  rfl

/-! ### Lines without line feeds -/

section OneLine

/-- Decimal numerals are digits, and a line feed is none. -/
theorem lineFeed_not_mem_decimal (n : Nat) : '\n' ∉ Text.decimal n := by
  intro h
  exact absurd (Text.isAsciiDigit_of_mem_decimal h) (by decide)

/-- A number as a text is its decimal numeral. -/
theorem lineFeed_not_mem_toString (n : Nat) : '\n' ∉ (toString n).toList := by
  rw [Nat.toString_eq_repr, Nat.toList_repr]
  exact lineFeed_not_mem_decimal n

/-- Groups of digits have commas between them and nothing else. -/
theorem lineFeed_not_mem_groupDigits (n : Nat) : '\n' ∉ (Text.groupDigits n).toList := by
  intro h
  rw [Text.groupDigits, String.toList_ofList] at h
  rcases Text.mem_of_mem_separate h with hcomma | hdigit
  · exact absurd hcomma (by decide)
  · exact lineFeed_not_mem_decimal n hdigit

/-- The text of a report is made of numbers and fixed words, so it is one line. -/
theorem lineFeed_not_mem_progressText (p : Statistics) : '\n' ∉ (progressText p).toList := by
  unfold progressText
  cases p.diameter with
  | none => simp [lineFeed_not_mem_groupDigits]
  | some depth =>
    have hdepth := lineFeed_not_mem_toString depth
    simp_all [lineFeed_not_mem_groupDigits]

/-- The name of a phase is one line. -/
theorem lineFeed_not_mem_phaseLabel (p : Phase) : '\n' ∉ (phaseLabel p).toList := by
  cases p <;> decide

/-- Whatever an item is about, its line is one line. -/
theorem lineFeed_not_mem_line (ascii : Bool) (i : Item) :
    '\n' ∉ (i.line (.select ascii)).toList := by
  have hmarkers : ∀ sign ∈ [(Markers.select ascii).ok, (Markers.select ascii).fail,
      (Markers.select ascii).warn, (Markers.select ascii).bullet], '\n' ∉ sign.toList := by
    cases ascii <;> decide
  simp only [List.forall_mem_cons] at hmarkers
  obtain ⟨hok, hfail, hwarn, hbullet, -⟩ := hmarkers
  cases i with
  | phase p => simp [Item.line, hbullet, lineFeed_not_mem_phaseLabel]
  | progress p => simp [Item.line, lineFeed_not_mem_progressText]
  | warning w => simp [Item.line, warningLine, hwarn, Text.lineFeed_not_mem_firstLine]
  | error e =>
    have hcode := lineFeed_not_mem_toString e.code
    simp_all [Item.line, errorLine, Text.lineFeed_not_mem_firstLine]
  | verdict s =>
    have hcount := lineFeed_not_mem_toString s.errors.length
    rw [Item.line, verdictLine]
    split <;> simp_all

end OneLine

end Console

end ModelCheck
