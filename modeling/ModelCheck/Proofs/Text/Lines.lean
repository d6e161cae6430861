import ModelCheck.Proofs.Text.Trim
import ModelCheck.Text.Lines

/-!
# First lines

The first line of a text ends before the first line feed. What is added on further lines does not change
it, unless the text ends in a carriage return; and a trimmed text does not.
-/

namespace ModelCheck.Text

/-- Dropping a carriage return puts no character in. -/
theorem not_mem_dropReturn {c : Char} {s : List Char} (h : c ∉ s) : c ∉ dropReturn s := by
  unfold dropReturn
  split
  · exact fun hc => h (List.dropLast_subset s hc)
  · exact h

/-- A line feed ends what stands before it. -/
theorem takeWhile_lineFeed {s : List Char} (h : '\n' ∉ s) (more : List Char) :
    (s ++ '\n' :: more).takeWhile (· ≠ '\n') = s := by
  have hs : ∀ c ∈ s, decide (c ≠ '\n') = true := by
    intro c hc
    exact decide_eq_true fun hfeed => h (hfeed ▸ hc)
  rw [List.takeWhile_append_of_pos hs, List.takeWhile_cons_of_neg (by simp), List.append_nil]

/-- The first of the lines, with what has been read of it in front. -/
theorem head?_linesFrom (s current : List Char) :
    (linesFrom s current).head?.getD [] =
      if '\n' ∈ s then dropReturn (current.reverse ++ s.takeWhile (· ≠ '\n'))
      else current.reverse ++ s := by
  induction s generalizing current with
  | nil => cases current <;> simp [linesFrom]
  | cons c rest ih =>
    by_cases hc : c = '\n'
    · simp [linesFrom, hc]
    · have hmem : '\n' ∈ c :: rest ↔ '\n' ∈ rest := by simp [Ne.symm hc]
      rw [linesFrom, if_neg hc, ih, List.takeWhile_cons_of_pos (by simpa using hc)]
      simp [hmem]

/-- The first line of a text. -/
theorem firstLine_eq (s : String) :
    (firstLine s).toList =
      if '\n' ∈ s.toList then dropReturn (s.toList.takeWhile (· ≠ '\n')) else s.toList := by
  have hhead : (firstLine s).toList = (linesFrom s.toList []).head?.getD [] := by
    rw [firstLine, lines]
    cases linesFrom s.toList [] <;> simp
  rw [hhead, head?_linesFrom]
  rfl

/-- The first line of a text ends before the first line feed. -/
theorem lineFeed_not_mem_firstLine (s : String) : '\n' ∉ (firstLine s).toList := by
  rw [firstLine_eq]
  split
  · refine not_mem_dropReturn fun hmem => ?_
    simpa using List.all_eq_true.mp List.all_takeWhile '\n' hmem
  · assumption

/-- Text on further lines leaves the first line alone. -/
theorem firstLine_append {s : String} (h : s.toList.getLast? ≠ some '\r') (more : String) :
    firstLine (s ++ "\n" ++ more) = firstLine s := by
  have htext : (s ++ "\n" ++ more).toList = s.toList ++ '\n' :: more.toList := by simp
  refine String.toList_injective ?_
  rw [firstLine_eq, firstLine_eq, htext, if_pos (by simp)]
  by_cases hmem : '\n' ∈ s.toList
  · obtain ⟨first, rest, hsplit, hfirst⟩ := List.eq_append_cons_of_mem hmem
    rw [if_pos hmem, hsplit, takeWhile_lineFeed hfirst, List.append_assoc, List.cons_append,
      takeWhile_lineFeed hfirst]
  · rw [if_neg hmem, takeWhile_lineFeed hmem, dropReturn, if_neg h]

/-- A carriage return is blank, so no trimmed text ends with one. -/
theorem trim_not_return (s : List Char) : (trim s).getLast? ≠ some '\r' := by
  intro h
  have hblank : isBlank '\r' = true := by decide
  simp [(trimmed_trim s).last _ h] at hblank

end ModelCheck.Text
