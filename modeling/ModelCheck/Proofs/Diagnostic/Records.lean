import ModelCheck.Proofs.Json.Written
import ModelCheck.Proofs.Text.Encode

/-!
# Records of diagnostics

A record is what one line of written diagnostics tells: a file and its diagnostics. It is read from
JSON field by field, and what has been written for a file is read as just that file with just its
diagnostics.
-/

namespace ModelCheck.Jsonl

/-! ### Reading -/

/-- The number that a value is. -/
def nat? : Json → Option Nat
  | .number spelling => Text.readDigits spelling 0
  | _ => none

/-- The text that a value is. -/
def text? : Json → Option String
  | .string s => some s
  | _ => none

/-- The items of an array. -/
def items? : Json → Option (List Json)
  | .array items => some items
  | _ => none

/-- The position that a value is. -/
def position? (v : Json) : Option Position := do
  let line ← (v.field? "line").bind nat?
  let column ← (v.field? "column").bind nat?
  some ⟨line, column⟩

/-- The range that a value is. -/
def range? (v : Json) : Option Range := do
  let start ← (v.field? "start").bind position?
  let stop ← (v.field? "end").bind position?
  some ⟨start, stop⟩

/-- The diagnostic that a value is. -/
def diagnostic? (v : Json) : Option Diagnostic := do
  let range ← (v.field? "range").bind range?
  let severity ← ((v.field? "severity").bind text?).bind Severity.ofWord?
  let message ← (v.field? "message").bind text?
  some ⟨range, severity, message⟩

/-- The diagnostics that values are. -/
def diagnostics? : List Json → Option (List Diagnostic)
  | [] => some []
  | v :: rest => do
    let d ← diagnostic? v
    let others ← diagnostics? rest
    some (d :: others)

/-- The file, with its diagnostics, that a value tells. -/
def record? (v : Json) : Option (Path × List Diagnostic) := do
  let file ← (v.field? "file").bind text?
  let diagnostics ← ((v.field? "diagnostics").bind items?).bind diagnostics?
  some (⟨file⟩, diagnostics)

/-- The record in a line of bytes. -/
def recordOf? (line : Text.Bytes) : Option (Path × List Diagnostic) :=
  ((Text.decodeStrict? line).bind fun s => Json.parse? s.toList).bind record?

/-! ### Reading back -/

/-- Whether a text is read as `a` by a reader of values, wherever the text stands. -/
def ReadAs {α : Type} (text : List Char) (read : Json → Option α) (a : α) : Prop :=
  ∃ v, Json.Written text v ∧ read v = some a

/-- The word for a severity is read as that severity. -/
theorem ofWord?_word (s : Severity) : Severity.ofWord? s.word = some s := by
  cases s <;> decide

/-- A numeral is read as its number. -/
theorem readAs_decimal (n : Nat) : ReadAs (Text.decimal n) nat? n :=
  ⟨_, .decimal n, Text.readDigits_decimal n⟩

/-- A quoted text is read as the text, whatever characters it has. -/
theorem readAs_quote (s : String) : ReadAs (quote s) text? s := ⟨_, .string s, rfl⟩

/-- A position is read back from the object with its line and its character. -/
theorem readAs_position (p : Position) : ReadAs (position p) position? p := by
  obtain ⟨line, hline, hline'⟩ := readAs_decimal p.line
  obtain ⟨column, hcolumn, hcolumn'⟩ := readAs_decimal p.column
  refine ⟨.object [("line", line), ("column", column)],
    .object (.cons ⟨rfl, hline⟩ (.cons ⟨rfl, hcolumn⟩ .nil)), ?_⟩
  simp [position?, Json.field?, List.lookup_cons, hline', hcolumn']

/-- A range is read back from the object with its two ends. -/
theorem readAs_range (r : Range) : ReadAs (range r) range? r := by
  obtain ⟨start, hstart, hstart'⟩ := readAs_position r.start
  obtain ⟨stop, hstop, hstop'⟩ := readAs_position r.stop
  refine ⟨.object [("start", start), ("end", stop)],
    .object (.cons ⟨rfl, hstart⟩ (.cons ⟨rfl, hstop⟩ .nil)), ?_⟩
  simp [range?, Json.field?, List.lookup_cons, hstart', hstop']

/-- A diagnostic is read back with its range, its severity and its text. -/
theorem readAs_diagnostic (d : Diagnostic) : ReadAs (diagnostic d) diagnostic? d := by
  obtain ⟨range, hrange, hrange'⟩ := readAs_range d.range
  obtain ⟨severity, hseverity, hseverity'⟩ := readAs_quote d.severity.word
  obtain ⟨message, hmessage, hmessage'⟩ := readAs_quote d.message
  refine ⟨.object [("range", range), ("severity", severity), ("message", message)],
    .object (.cons ⟨rfl, hrange⟩ (.cons ⟨rfl, hseverity⟩ (.cons ⟨rfl, hmessage⟩ .nil))), ?_⟩
  simp [diagnostic?, Json.field?, List.lookup_cons, hrange', hseverity', hmessage', ofWord?_word]

/-- Diagnostics are read back one by one, in their order. -/
theorem exists_written_diagnostics (ds : List Diagnostic) :
    ∃ vs, List.Forall₂ Json.Written (ds.map diagnostic) vs ∧ diagnostics? vs = some ds := by
  induction ds with
  | nil => exact ⟨[], .nil, rfl⟩
  | cons d rest ih =>
    obtain ⟨v, hv, hv'⟩ := readAs_diagnostic d
    obtain ⟨vs, hvs, hvs'⟩ := ih
    refine ⟨v :: vs, .cons hv hvs, ?_⟩
    simp [diagnostics?, hv', hvs']

/-- The line of a file without its line feed. -/
def body (entry : Path × List Diagnostic) : List Char :=
  object [("file", quote entry.1.spelling), ("diagnostics", array (entry.2.map diagnostic))]

/-- A line is its body and a line feed. -/
theorem line_eq (entry : Path × List Diagnostic) : line entry = body entry ++ ['\n'] := rfl

/-- The body of a line is read as the file that it was written for, in the spelling that it has, with
its diagnostics. -/
theorem readAs_body (entry : Path × List Diagnostic) : ReadAs (body entry) record? entry := by
  obtain ⟨file, hfile, hfile'⟩ := readAs_quote entry.1.spelling
  obtain ⟨vs, hvs, hvs'⟩ := exists_written_diagnostics entry.2
  refine ⟨.object [("file", file), ("diagnostics", .array vs)],
    .object (.cons ⟨rfl, hfile⟩ (.cons ⟨rfl, .array hvs⟩ .nil)), ?_⟩
  simp [record?, Json.field?, List.lookup_cons, hfile', items?, hvs']

/-- The line of a file as bytes. -/
def lineBytes (entry : Path × List Diagnostic) : Text.Bytes :=
  Text.encode (String.ofList (line entry))

/-- The line of a file is read as that file with its diagnostics. -/
theorem recordOf?_lineBytes (entry : Path × List Diagnostic) :
    recordOf? (lineBytes entry) = some entry := by
  obtain ⟨v, hv, hrecord⟩ := readAs_body entry
  have hparse : Json.parse? (line entry) = some v := hv.parse?_lineFeed
  rw [recordOf?, lineBytes, Text.decodeStrict?_encode, Option.bind_some, String.toList_ofList, hparse,
    Option.bind_some, hrecord]

/-! ### Control characters -/

/-- Whether a text has no control character below U+0020. -/
def Clean (s : List Char) : Prop := ∀ c ∈ s, 0x20 ≤ c.toNat

namespace Clean

variable {s t : List Char}

/-- Clean texts stay clean when they are put together. -/
theorem append (hs : Clean s) (ht : Clean t) : Clean (s ++ t) := by
  intro c hc
  rcases List.mem_append.mp hc with h | h
  · exact hs c h
  · exact ht c h

/-- A character that is no control character may stand in front. -/
theorem cons {c : Char} (hc : 0x20 ≤ c.toNat) (hs : Clean s) : Clean (c :: s) :=
  List.forall_mem_cons.mpr ⟨hc, hs⟩

/-- Digits are no control characters. -/
theorem decimal (n : Nat) : Clean (Text.decimal n) := by
  intro c hc
  have hdigit := Json.isDigit_of_mem_decimal hc
  rw [Char.isDigit_iff_toNat] at hdigit
  have hzero : '0'.toNat = 48 := rfl
  omega

/-- A control character is escaped, and its escape is written without one. -/
theorem escape (c : Char) : Clean (Jsonl.escape c) := by
  have hletter : ∀ d : Char, 0x20 ≤ d.toNat → Clean ['\\', d] :=
    fun d hd => cons (by decide) (cons hd nofun)
  have hhex : ∀ n < 16, 0x20 ≤ (hexDigit n).toNat := by decide
  unfold Jsonl.escape
  iterate 7
    split
    · exact hletter _ (by decide)
  split
  · have hhigh := hhex (c.toNat / 16) (by omega)
    have hlow := hhex (c.toNat % 16) (by omega)
    exact (hletter 'u' (by decide)).append
      (cons (by decide) (cons (by decide) (cons hhigh (cons hlow nofun))))
  · next hcontrol => exact cons (by omega) nofun

/-- A quoted text is made of escapes between two quotation marks. -/
theorem quote (s : String) : Clean (Jsonl.quote s) := by
  have hcontent : Clean (s.toList.flatMap Jsonl.escape) := by
    intro c hc
    obtain ⟨d, -, hc⟩ := List.mem_flatMap.mp hc
    exact escape d c hc
  exact cons (by decide) (hcontent.append (cons (by decide) nofun))

/-- The comma between two texts is no control character either. -/
theorem commaSeparated {texts : List (List Char)} (h : ∀ text ∈ texts, Clean text) :
    Clean (Jsonl.commaSeparated texts) := by
  induction texts using Jsonl.commaSeparated.induct with
  | case1 => exact nofun
  | case2 only => exact h only List.mem_cons_self
  | case3 first rest hrest ih =>
    rw [Jsonl.commaSeparated]
    · obtain ⟨hfirst, hothers⟩ := List.forall_mem_cons.mp h
      exact hfirst.append (cons (by decide) (ih hothers))
    · exact hrest

/-- Brackets around clean elements leave them clean. -/
theorem array {texts : List (List Char)} (h : ∀ text ∈ texts, Clean text) :
    Clean (Jsonl.array texts) :=
  cons (by decide) ((commaSeparated h).append (cons (by decide) nofun))

/-- The keys are quoted, so an object is clean if its values are. -/
theorem object {fields : List (String × List Char)} (h : ∀ field ∈ fields, Clean field.2) :
    Clean (Jsonl.object fields) := by
  have hfields : Clean (Jsonl.commaSeparated (fields.map Json.Written.fieldText)) := by
    refine commaSeparated fun text htext => ?_
    obtain ⟨field, hfield, rfl⟩ := List.mem_map.mp htext
    exact (quote field.1).append (cons (by decide) (h field hfield))
  exact cons (by decide) (hfields.append (cons (by decide) nofun))

/-- A diagnostic is an object of numbers and quoted texts. -/
theorem diagnostic (d : Diagnostic) : Clean (Jsonl.diagnostic d) := by
  have hposition : ∀ p, Clean (position p) := fun p => object (by simp [decimal])
  have hrange : Clean (range d.range) := object (by simp [hposition])
  exact object (by simp [hrange, quote])

/-- A line has no control character but its line feed. -/
theorem body (entry : Path × List Diagnostic) : Clean (Jsonl.body entry) := by
  have hdiagnostics : Clean (Jsonl.array (entry.2.map Jsonl.diagnostic)) := by
    refine array fun text htext => ?_
    obtain ⟨d, -, rfl⟩ := List.mem_map.mp htext
    exact diagnostic d
  exact object (by simp [hdiagnostics, quote])

end Clean

end ModelCheck.Jsonl
