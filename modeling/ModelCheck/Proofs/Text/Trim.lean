import Mathlib.Data.List.DropRight
import ModelCheck.Proofs.Text.Scan
import ModelCheck.Text.Blank

/-!
# Trimmed texts

Trimming takes blank characters away at the two ends until others stand there. So what is left of a text
does not depend on the blank characters around it, and a text that has none at its ends is left as it is.
-/

namespace ModelCheck.Text

/-! ### The end of a text -/

section Ending

variable {p : Char → Bool}

/-- An ending of characters that are dropped makes no difference. -/
theorem dropEndWhile_append {ending : List Char} (h : ∀ c ∈ ending, p c = true) (s : List Char) :
    dropEndWhile p (s ++ ending) = dropEndWhile p s := by
  rw [dropEndWhile, List.reverse_append,
    List.dropWhile_append_of_pos fun c hc => h c (List.mem_reverse.mp hc), dropEndWhile]

/-- A text whose last character is kept is kept as a whole. -/
theorem dropEndWhile_of_last {s : List Char} (h : ∀ c ∈ s.getLast?, p c = false) :
    dropEndWhile p s = s := by
  refine List.rdropWhile_eq_self_iff.mpr fun hne => ?_
  simp [h _ (List.getLast?_eq_some_getLast hne)]

/-- What is left ends with a character that is kept. -/
theorem last_dropEndWhile (p : Char → Bool) (s : List Char) :
    ∀ c ∈ (dropEndWhile p s).getLast?, p c = false := by
  intro c hc
  rw [dropEndWhile, List.getLast?_reverse] at hc
  exact ends_dropWhile p s.reverse c hc

/-- What is dropped at the end is all of the kind that is dropped. -/
theorem exists_ending (p : Char → Bool) (s : List Char) :
    ∃ ending, (∀ c ∈ ending, p c = true) ∧ s = dropEndWhile p s ++ ending :=
  ⟨s.rtakeWhile p, fun _ => List.mem_rtakeWhile_imp, List.rdropWhile_append_rtakeWhile.symm⟩

end Ending

/-! ### Both ends -/

/-- A text of blank characters. -/
def IsPadding (s : List Char) : Prop := ∀ c ∈ s, isBlank c = true

instance (s : List Char) : Decidable (IsPadding s) := List.decidableBAll _ s

/-- No text is padding. -/
theorem isPadding_nil : IsPadding [] := List.forall_mem_nil _

/-- Padding behind padding is padding. -/
theorem IsPadding.append {s t : List Char} (hs : IsPadding s) (ht : IsPadding t) :
    IsPadding (s ++ t) := fun c hc => (List.mem_append.mp hc).elim (hs c) (ht c)

/-- A text that neither begins nor ends with a blank character. -/
structure Trimmed (s : List Char) : Prop where
  head : Ends isBlank s
  last : ∀ c ∈ s.getLast?, isBlank c = false

/-- The empty text has no blank character at its ends. -/
theorem trimmed_nil : Trimmed [] where
  head c hc := absurd hc (Option.not_mem_none c)
  last c hc := absurd hc (Option.not_mem_none c)

/-- Trimming leaves no blank character at either end. -/
theorem trimmed_trim (s : List Char) : Trimmed (trim s) where
  head c hc := by
    obtain ⟨ending, -, hs⟩ := exists_ending isBlank (s.dropWhile isBlank)
    have hhead : (s.dropWhile isBlank).head? = some c := by
      rw [hs, List.head?_append]
      exact congrArg (·.or ending.head?) (Option.mem_def.mp hc)
    exact ends_dropWhile isBlank s c hhead
  last := last_dropEndWhile isBlank _

/-- A text is what trimming leaves of it, between paddings. -/
theorem exists_padding (s : List Char) :
    ∃ before after, IsPadding before ∧ IsPadding after ∧ s = before ++ trim s ++ after := by
  obtain ⟨after, hafter, hs⟩ := exists_ending isBlank (s.dropWhile isBlank)
  refine ⟨s.takeWhile isBlank, after, fun c hc => List.all_eq_true.mp List.all_takeWhile c hc,
    hafter, ?_⟩
  rw [trim, List.append_assoc, ← hs, List.takeWhile_append_dropWhile]

/-- What stands trimmed between paddings is what trimming leaves. -/
theorem trim_padded {before s after : List Char} (hbefore : IsPadding before) (hs : Trimmed s)
    (hafter : IsPadding after) : trim (before ++ s ++ after) = s := by
  rw [trim, List.append_assoc, List.dropWhile_append_of_pos hbefore]
  cases s with
  | nil =>
    have hall : after.dropWhile isBlank = [] := List.dropWhile_eq_nil_iff.mpr hafter
    rw [List.nil_append, hall]
    rfl
  | cons c rest =>
    have hfirst : isBlank c = false := hs.head c rfl
    rw [List.cons_append, List.dropWhile_cons_of_neg (by simp [hfirst]), ← List.cons_append,
      dropEndWhile_append hafter, dropEndWhile_of_last hs.last]

/-- Paddings around a text do not count. -/
theorem trim_append {before after : List Char} (hbefore : IsPadding before)
    (hafter : IsPadding after) (s : List Char) : trim (before ++ s ++ after) = trim s := by
  obtain ⟨front, back, hfront, hback, hs⟩ := exists_padding s
  have hall : before ++ s ++ after = (before ++ front) ++ trim s ++ (back ++ after) := by
    conv_lhs => rw [hs]
    simp only [List.append_assoc]
  rw [hall, trim_padded (hbefore.append hfront) (trimmed_trim s) (hback.append hafter)]

/-- Nothing is left of a text just if all of it is blank. -/
theorem trim_eq_nil_iff {s : List Char} : trim s = [] ↔ IsPadding s := by
  constructor
  · intro h
    obtain ⟨before, after, hbefore, hafter, hs⟩ := exists_padding s
    rw [h, List.append_nil] at hs
    rw [hs]
    exact hbefore.append hafter
  · intro h
    have hpadded : trim (s ++ [] ++ []) = [] := trim_padded h trimmed_nil isPadding_nil
    rwa [List.append_nil, List.append_nil] at hpadded

end ModelCheck.Text
