import ModelCheck.Console.Writer
import ModelCheck.Proofs.Text.Encode

/-!
# Writing in parts

A writer takes the front of what it is given, whatever number of writes that takes, and loses something
only where it refuses further writes. From there on it stays as it is. So it does not matter whether
lines are written together or in parts, also where writing fails in the middle of a text.
-/

namespace ModelCheck.Console.Writer

open Text (Bytes encode)

variable {w w' : Writer} {content lost : Bytes}

/-- Lines as one text, each with its line feed. -/
def linesText (lines : List String) : String := String.join (lines.map (· ++ "\n"))

/-- The bytes of lines are those of the first one, a line feed and those of the others. -/
theorem encode_linesText_cons (line : String) (rest : List String) :
    encode (linesText (line :: rest)) = encode line ++ ([0x0A] ++ encode (linesText rest)) := by
  have hfeed : encode "\n" = [0x0A] := Text.encode_lineFeed
  rw [linesText, List.map_cons, String.join_cons, Text.encode_append, Text.encode_append, hfeed,
    List.append_assoc, linesText]

/-! ### What is taken -/

/-- What a writer has made of a content: it has taken the front, and if it has lost anything behind that,
it refuses further writes now. -/
structure Took (w : Writer) (content lost : Bytes) (w' : Writer) : Prop where
  front : ∃ front, content = front ++ lost ∧ w' = { w with taken := w.taken ++ front }
  refused : lost = [] ∨ w'.broken w'.taken = true

namespace Took

/-- Nothing is taken and nothing lost of nothing. -/
theorem nil (w : Writer) : Took w [] [] w where
  front := ⟨[], rfl, by rw [List.append_nil]⟩
  refused := .inl rfl

/-- A writer that has failed loses the whole content. -/
theorem of_broken (h : w.broken w.taken = true) (content : Bytes) : Took w content content w where
  front := ⟨[], rfl, by rw [List.append_nil]⟩
  refused := .inr h

/-- After a content that has been taken as a whole the writer goes on with the next one. -/
theorem append {w'' : Writer} {more : Bytes} (h : Took w content [] w') (h' : Took w' more lost w'') :
    Took w (content ++ more) lost w'' := by
  obtain ⟨front, hcontent, rfl⟩ := h.front
  obtain ⟨front', hmore, hw''⟩ := h'.front
  refine ⟨⟨front ++ front', ?_, ?_⟩, h'.refused⟩
  · rw [hcontent, hmore, List.append_nil, List.append_assoc]
  · rw [hw'', List.append_assoc]

/-- After a content that has not been taken as a whole everything else is lost too. -/
theorem stop (h : Took w content lost w') (hlost : lost ≠ []) (more : Bytes) :
    Took w (content ++ more) (lost ++ more) w' := by
  obtain ⟨front, hcontent, hw'⟩ := h.front
  refine ⟨⟨front, ?_, hw'⟩, .inr (h.refused.resolve_left hlost)⟩
  rw [hcontent, List.append_assoc]

/-- Only what has been taken changes. -/
theorem broken_eq (h : Took w content lost w') : w'.broken = w.broken := by
  obtain ⟨front, -, rfl⟩ := h.front
  rfl

/-- What has been taken and what has been lost make up the content. -/
theorem taken_append (h : Took w content lost w') : w.taken ++ content = w'.taken ++ lost := by
  obtain ⟨front, rfl, rfl⟩ := h.front
  exact (List.append_assoc _ _ _).symm

end Took

/-- Writing a content takes its front, and says whether that is all of it. -/
theorem exists_took_writeAll (content : Bytes) (w : Writer) :
    ∃ lost, Took w content lost (w.writeAll content).1 ∧ (w.writeAll content).2 = lost.isEmpty := by
  -- the induction is on the writes: each of them takes at least the first byte
  induction content, w using writeAll.induct with
  | case1 w => exact ⟨[], by rw [writeAll]; exact .nil w, by rw [writeAll]; rfl⟩
  | case2 b rest w hbroken =>
    rw [writeAll, if_pos hbroken]
    exact ⟨b :: rest, .of_broken hbroken _, rfl⟩
  | case3 b rest w hbroken count ih =>
    obtain ⟨lost, htook, hwhole⟩ := ih
    have hfirst : Took w (b :: rest.take count) []
        { w with taken := w.taken ++ b :: rest.take count } :=
      ⟨⟨_, (List.append_nil _).symm, rfl⟩, .inl rfl⟩
    have hboth := hfirst.append htook
    rw [List.cons_append, List.take_append_drop] at hboth
    rw [writeAll, if_neg hbroken]
    exact ⟨lost, hboth, hwhole⟩

/-- A content is taken as a whole, or the writer comes to refuse further writes. -/
theorem writeAll_cases (content : Bytes) (w : Writer) :
    (∃ w', w.writeAll content = (w', true) ∧ Took w content [] w') ∨
      ∃ w' lost, w.writeAll content = (w', false) ∧ lost ≠ [] ∧ Took w content lost w' := by
  obtain ⟨lost, htook, hwhole⟩ := exists_took_writeAll content w
  cases lost with
  | nil => exact .inl ⟨_, Prod.ext rfl hwhole, htook⟩
  | cons b rest => exact .inr ⟨_, _, Prod.ext rfl hwhole, List.cons_ne_nil b rest, htook⟩

/-- Lines are taken up to some point, be it within one of them, and nothing is lost unless the writer
refuses further writes there. -/
theorem exists_took_writeLines (lines : List String) (w : Writer) :
    ∃ lost, Took w (encode (linesText lines)) lost (w.writeLines lines) := by
  induction lines generalizing w with
  | nil =>
    have hnothing : encode (linesText []) = [] := Text.encode_ofList []
    rw [hnothing]
    exact ⟨[], .nil w⟩
  | cons line rest ih =>
    rw [encode_linesText_cons]
    rcases writeAll_cases (encode line) w with ⟨w₁, hline, htook⟩ | ⟨w₁, lost, hline, hlost, htook⟩
    · rcases writeAll_cases [0x0A] w₁ with ⟨w₂, hfeed, htook'⟩ | ⟨w₂, lost, hfeed, hlost, htook'⟩
      · obtain ⟨lost, hrest⟩ := ih w₂
        simp only [writeLines, hline, hfeed]
        exact ⟨lost, htook.append (htook'.append hrest)⟩
      · simp only [writeLines, hline, hfeed]
        exact ⟨_, htook.append (htook'.stop hlost _)⟩
    · simp only [writeLines, hline]
      exact ⟨_, htook.stop hlost _⟩

/-! ### Writers that have failed, and those that never do -/

/-- What is written to a writer that refuses further writes is lost. -/
theorem writeAll_of_broken (h : w.broken w.taken = true) (content : Bytes) :
    w.writeAll content = (w, content.isEmpty) := by
  cases content with
  | nil => rw [writeAll, List.isEmpty_nil]
  | cons b rest => rw [writeAll, if_pos h, List.isEmpty_cons]

/-- A writer that refuses further writes is left as it is by lines too. -/
theorem writeLines_of_broken (h : w.broken w.taken = true) (lines : List String) :
    w.writeLines lines = w := by
  cases lines with
  | nil => rfl
  | cons line rest =>
    have hfeed : w.writeAll [0x0A] = (w, false) := writeAll_of_broken h _
    rw [writeLines, writeAll_of_broken h]
    cases (encode line).isEmpty with
    | false => rfl
    | true => simp only [hfeed]

/-- Lines may be written in parts. -/
theorem writeLines_append (front rest : List String) (w : Writer) :
    w.writeLines (front ++ rest) = (w.writeLines front).writeLines rest := by
  induction front generalizing w with
  | nil => rfl
  | cons line front ih =>
    rw [List.cons_append, writeLines, writeLines]
    rcases writeAll_cases (encode line) w with ⟨w₁, hline, -⟩ | ⟨w₁, lost, hline, hlost, htook⟩
    · rcases writeAll_cases [0x0A] w₁ with ⟨w₂, hfeed, -⟩ | ⟨w₂, lost, hfeed, hlost, htook⟩
      · simp only [hline, hfeed]
        exact ih w₂
      · simp only [hline, hfeed]
        exact (writeLines_of_broken (htook.refused.resolve_left hlost) rest).symm
    · simp only [hline]
      exact (writeLines_of_broken (htook.refused.resolve_left hlost) rest).symm

/-- A writer that never fails gets all lines. -/
theorem writeLines_of_reliable (h : ∀ taken, w.broken taken = false) (lines : List String) :
    w.writeLines lines = { w with taken := w.taken ++ encode (linesText lines) } := by
  obtain ⟨lost, htook⟩ := exists_took_writeLines lines w
  have hnothing : lost = [] := by
    rcases htook.refused with hlost | hbroken
    · exact hlost
    · rw [htook.broken_eq, h] at hbroken
      cases hbroken
  obtain ⟨front, hfront, hwriter⟩ := htook.front
  rw [hnothing, List.append_nil] at hfront
  rw [hwriter, hfront]

end ModelCheck.Console.Writer
