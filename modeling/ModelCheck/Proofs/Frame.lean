import ModelCheck.Frame
import ModelCheck.Proofs.Text.ReadBack
import ModelCheck.Proofs.Text.Trim

/-!
# Lines and frames

The frame that a line is does not depend on how the line ends, and a frame that is written as a line
is read back from it.
-/

namespace ModelCheck.Frame

/-- Carriage returns and line feeds at the end of a line do not count. -/
theorem stripEnding_append {ending : List Char} (h : ∀ c ∈ ending, c = '\r' ∨ c = '\n')
    (s : List Char) : stripEnding (s ++ ending) = stripEnding s := by
  refine Text.dropEndWhile_append (fun c hc => ?_) s
  simpa using h c hc

/-- The frame of a line does not depend on its ending. -/
theorem classify_append {ending : List Char} (h : ∀ c ∈ ending, c = '\r' ∨ c = '\n')
    (s : List Char) : classify (s ++ ending) = classify s := by
  rw [classify, classify, stripEnding_append h]

/-- A line that does not end in a carriage return or a line feed has no ending to strip. -/
theorem stripEnding_of_getLast {s : List Char}
    (h : ∀ c ∈ s.getLast?, c ≠ '\r' ∧ c ≠ '\n') : stripEnding s = s := by
  refine Text.dropEndWhile_of_last fun c hc => ?_
  obtain ⟨hreturn, hfeed⟩ := h c hc
  simp [hreturn, hfeed]

/-- A text that ends with the mark ends with its last character. -/
theorem getLast?_close (s : List Char) : (s ++ closeMark).getLast? = some '@' := by
  rw [List.getLast?_append]
  rfl

/-- Every frame line is closed by an at sign, which is no ending. -/
theorem stripEnding_close (s : List Char) : stripEnding (s ++ closeMark) = s ++ closeMark := by
  refine stripEnding_of_getLast fun c hc => ?_
  rw [getLast?_close] at hc
  cases hc
  decide

/-- A number below `2 ^ 32` is read back from its numeral, up to the first character that is no digit.
-/
theorem code?_decimal {n : Nat} (hn : n < 4294967296) {c : Char}
    (hc : Text.isAsciiDigit c = false) (rest : List Char) :
    code? (Text.decimal n ++ c :: rest) = some (n, c :: rest) := by
  rw [code?, Text.run?_append (Text.decimal_ne_nil n)
    (fun d => Text.isAsciiDigit_of_mem_decimal) hc]
  simp only [Option.bind_eq_bind, Option.bind_some, Text.readNat32?, Text.readNat?_decimal hn]
  rfl

/-- A start line is read back. -/
theorem classify_render_start {code severity : Nat} (hcode : code < 4294967296)
    (hseverity : severity < 4294967296) :
    classify (render (.start code severity)) = .start code severity := by
  have hstrip : stripEnding (render (.start code severity)) = render (.start code severity) := by
    simpa [render] using
      stripEnding_close (startMark ++ Text.decimal code ++ ':' :: Text.decimal severity)
  have hclose : code? (Text.decimal severity ++ closeMark) = some (severity, closeMark) :=
    code?_decimal hseverity (by decide) _
  have hread : start? (render (.start code severity)) = some (.start code severity) := by
    simp only [start?, render, List.append_assoc, Text.after?_append, Option.bind_eq_bind,
      Option.bind_some, code?_decimal hcode (show Text.isAsciiDigit ':' = false by decide)]
    rw [Text.after?, if_pos rfl, Text.after?, Option.bind_some, hclose, Option.bind_some,
      if_pos rfl]
  rw [classify, hstrip, hread]
  rfl

/-- An end line is read back. -/
theorem classify_render_stop {code : Nat} (hcode : code < 4294967296) :
    classify (render (.stop code)) = .stop code := by
  have hstrip : stripEnding (render (.stop code)) = render (.stop code) :=
    stripEnding_close (stopMark ++ Text.decimal code)
  have hclose : code? (Text.decimal code ++ closeMark) = some (code, closeMark) :=
    code?_decimal hcode (by decide) _
  -- the two marks differ at the sixth character
  have hstart : start? (render (.stop code)) = none := rfl
  have hread : stop? (render (.stop code)) = some (.stop code) := by
    simp only [stop?, render, List.append_assoc, Text.after?_append, Option.bind_eq_bind,
      Option.bind_some, hclose, if_true]
  rw [classify, hstrip, hstart, hread]
  rfl

/-- A line without an ending that neither reader of frame lines takes is text. -/
theorem classify_text {s : List Char} (hending : ∀ c ∈ s.getLast?, c ≠ '\r' ∧ c ≠ '\n')
    (hstart : start? s = none) (hstop : stop? s = none) : classify s = .text s := by
  rw [classify, stripEnding_of_getLast hending, hstart, hstop]
  rfl

end ModelCheck.Frame
