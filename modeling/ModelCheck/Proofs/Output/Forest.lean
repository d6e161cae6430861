import ModelCheck.Proofs.Frame
import ModelCheck.Proofs.Output.Completion

/-!
# Nested messages are read back

Well-nested output is a forest: plain lines, and messages with a forest inside each. Written as
lines, every message between its start line and its end line, and read again, it gives back its
messages in the order in which they close, each with its own text.
-/

namespace ModelCheck.Output

/-- A line of text that is not a frame line, without a line ending. -/
structure PlainLine where
  content : List Char
  unended : ∀ c ∈ content.getLast?, c ≠ '\r' ∧ c ≠ '\n'
  not_start : Frame.start? content = none
  not_stop : Frame.stop? content = none

/-- A plain line is text, with its whole content. -/
theorem PlainLine.classify (line : PlainLine) :
    Frame.classify line.content = .text line.content :=
  Frame.classify_text line.unended line.not_start line.not_stop

/-- A list of plain lines and of messages, each message with what stands inside it. -/
inductive Forest where
  | nil
  | text (line : PlainLine) (rest : Forest)
  | message (code severity : UInt32) (inner rest : Forest)

namespace Forest

/-- The text of a forest that is in none of its messages. -/
def texts : Forest → List (List Char)
  | .nil => []
  | .text line rest => line.content :: texts rest
  | .message _ _ _ rest => texts rest

/-- The messages of a forest in the order in which they close, each with the text directly inside
it. -/
def messages : Forest → List Message
  | .nil => []
  | .text _ rest => messages rest
  | .message code severity inner rest =>
    messages inner ++ ⟨code.toNat, severity.toNat, inner.texts⟩ :: messages rest

/-- The lines that a forest is written as, each with the message that it is the end line of. -/
def written : Forest → List (List Char × Option Message)
  | .nil => []
  | .text line rest => (line.content, none) :: written rest
  | .message code severity inner rest =>
    (Frame.render (.start code.toNat severity.toNat), none) :: written inner ++
      (Frame.render (.stop code.toNat), some ⟨code.toNat, severity.toNat, inner.texts⟩) ::
        written rest

/-- The lines of a forest as inputs, each at the time that a clock shows for its place. -/
def inputs (clock : Nat → Moment) (f : Forest) : List Input :=
  f.written.mapIdx fun i line => .line (clock i) line.1

/-- The frames of the lines of a forest. -/
def frames (f : Forest) : List (Option Frame) :=
  f.written.map fun line => some (Frame.classify line.1)

/-- Every message has one end line, and these come in the order of the messages. -/
theorem written_messages (f : Forest) : f.written.filterMap Prod.snd = f.messages := by
  induction f with
  | nil => rfl
  | text line rest ih => exact ih
  | message code severity inner rest ihinner ihrest =>
    rw [written, messages, ← ihinner, ← ihrest, List.cons_append, List.filterMap_cons_none rfl,
      List.filterMap_append]
    rfl

/-- A plain line is one frame, with its content. -/
theorem frames_text (line : PlainLine) (rest : Forest) :
    (text line rest).frames = some (.text line.content) :: rest.frames := by
  rw [frames, written, List.map_cons, line.classify, frames]

/-- The frames of what is inside a message stand between those of its start line and its end line. -/
theorem frames_message (code severity : UInt32) (inner rest : Forest) :
    (message code severity inner rest).frames =
      some (.start code.toNat severity.toNat) :: inner.frames ++
        some (.stop code.toNat) :: rest.frames := by
  rw [frames, written, List.map_append, List.map_cons, List.map_cons,
    Frame.classify_render_start code.toNat_lt severity.toNat_lt,
    Frame.classify_render_stop code.toNat_lt, frames, frames]

/-- The frames of the lines do not depend on the clock. -/
theorem frames_inputs (clock : Nat → Moment) (f : Forest) :
    Output.frames (f.inputs clock) = f.frames := by
  refine List.ext_getElem? fun i => ?_
  simp [Output.frames, inputs, frames, Input.frame?, Function.comp_def]

/-! ### The open messages around a forest -/

/-- Open messages with more text in the innermost one. -/
def putTexts (more : List (List Char)) : List Message → List Message
  | [] => []
  | m :: outer => { m with lines := m.lines ++ more } :: outer

/-- No text changes nothing. -/
theorem putTexts_nil (opened : List Message) : putTexts [] opened = opened := by
  cases opened with
  | nil => rfl
  | cons m outer => rw [putTexts, List.append_nil]

/-- Text goes into the innermost message line by line. -/
theorem putTexts_cons (content : List Char) (more : List (List Char)) (opened : List Message) :
    putTexts more (nextOpen (some (.text content)) opened) = putTexts (content :: more) opened := by
  cases opened with
  | nil => rfl
  | cons m outer => rw [nextOpen, putTexts, putTexts, List.append_assoc, List.singleton_append]

/-- Whatever is open before a forest is open after it; only the innermost message has got the text of
the forest that is in none of its messages. -/
theorem openAfter_frames (f : Forest) (opened : List Message) :
    openAfter f.frames opened = putTexts f.texts opened := by
  induction f generalizing opened with
  | nil => exact (putTexts_nil opened).symm
  | text line rest ih => rw [frames_text, openAfter, ih, putTexts_cons, texts]
  | message code severity inner rest ihinner ihrest =>
    -- the inner forest stands in the message just begun, the rest where the message stood
    rw [frames_message, List.cons_append, openAfter, openAfter_append, ihinner, openAfter, ihrest,
      texts]
    rfl

/-- A message is completed at its own end line, with the text directly inside it, and at no other
line. -/
theorem completes_frames (f : Forest) (opened : List Message) :
    along completes f.frames opened = f.written.map fun line => line.2.toList := by
  induction f generalizing opened with
  | nil => rfl
  | text line rest ih =>
    rw [frames_text, along, ih, written, List.map_cons]
    rfl
  | message code severity inner rest ihinner ihrest =>
    rw [frames_message, List.cons_append, along, along_append, along, ihinner, ihrest,
      openAfter_frames, written, List.cons_append, List.map_cons, List.map_append, List.map_cons]
    rfl

/-- A forest outside all messages passes on its text that is in none of its messages; a forest inside
a message passes nothing on. -/
theorem passed_frames (f : Forest) (opened : List Message) :
    passed f.frames opened = if opened = [] then f.texts.map String.ofList else [] := by
  induction f generalizing opened with
  | nil => exact (ite_self []).symm
  | text line rest ih =>
    rw [frames_text, passed_cons, ih, texts]
    cases opened with
    | nil => rfl
    | cons m outer => rfl
  | message code severity inner rest ihinner ihrest =>
    have hinner : passed inner.frames (⟨code.toNat, severity.toNat, []⟩ :: opened) = [] :=
      ihinner _
    have houter : openAfter inner.frames (⟨code.toNat, severity.toNat, []⟩ :: opened) =
        ⟨code.toNat, severity.toNat, inner.texts⟩ :: opened := openAfter_frames inner _
    rw [frames_message, List.cons_append, passed_cons, nextOpen, passed_append, hinner, houter,
      passed_cons, nextOpen, List.tail_cons, ihrest, texts]
    rfl

/-- The frames of forest lines, read with nothing open, complete the messages of the forest. -/
theorem messages_inputs (clock : Nat → Moment) (f : Forest) :
    Output.messages (f.inputs clock) = f.messages := by
  rw [Output.messages, applied_messages, frames_inputs, completes_frames, ← written_messages,
    ← List.flatMap_def, List.filterMap_eq_flatMap_toList]

section Place

variable {clock : Nat → Moment} {f : Forest} {i : Nat} {line : List Char} {ending : Option Message}

/-- A written line is the input at its place, at the time that the clock shows for it. -/
theorem input_of_written (hline : f.written[i]? = some (line, ending)) :
    (f.inputs clock)[i]? = some (.line (clock i) line) := by
  rw [inputs, List.getElem?_mapIdx, hline]
  rfl

/-- A line completes, at its place in the forest, the message that it is the end line of. -/
theorem completes_of_written (hline : f.written[i]? = some (line, ending)) {o : Output}
    (ho : o.openMessages = []) :
    completes (some (Frame.classify line)) (o.after ((f.inputs clock).take i)).openMessages =
      ending.toList := by
  have hframe : f.frames[i]? = some (some (Frame.classify line)) := by
    rw [frames, List.getElem?_map, hline]
    rfl
  have hopened : (o.after ((f.inputs clock).take i)).openMessages =
      openAfter (f.frames.take i) [] := by
    rw [after_openMessages, ho, Output.frames, List.map_take, ← Output.frames, frames_inputs]
  have hfound : (along completes f.frames [])[i]? = some ending.toList := by
    rw [completes_frames, List.getElem?_map, hline]
    rfl
  rw [getElem?_along, hframe, Option.map_some, Option.some.injEq] at hfound
  rw [hopened, hfound]

end Place

end Forest

/-- The lines of a forest, read from the start, apply the messages of the forest just in the order in
which they close, each with the text directly inside it. The end line of a message delivers the
snapshot right after this message, and no other line delivers any. The text in none of the messages
goes to the tail, in order. Nothing is left open, so a flush does nothing. -/
theorem forest_read_back (f : Forest) (clock : Nat → Moment) (file : Path) (limit : Nat) (zone : Zone) :
    let inputs := f.inputs clock
    let state := fun lines => (start file limit zone).after (inputs.take lines)
    let last := (start file limit zone).after inputs
    messages inputs = f.messages ∧
      passed (frames inputs) [] = f.texts.map String.ofList ∧
      last.snapshot = ((Snapshot.initial file).applyAll zone (applied inputs [])).withTail
        ((f.texts.map String.ofList).foldl (enqueue limit) []) ∧
      (∀ i line ending, f.written[i]? = some (line, ending) →
        ((state i).pushLine (clock i) line).1 = state (i + 1) ∧
        ((state i).pushLine (clock i) line).2 = ending.map (fun _ => (state (i + 1)).snapshot) ∧
        ∀ m ∈ ending, (state (i + 1)).snapshot = (state i).snapshot.apply zone (clock i) m) ∧
      last.openMessages = [] ∧
      ∀ now, last.flush now = (last, none) := by
  intro inputs state last
  have hpassed : passed (frames inputs) [] = f.texts.map String.ofList := by
    rw [Forest.frames_inputs, Forest.passed_frames, if_pos rfl]
  have hopened : last.openMessages = [] := by
    rw [after_openMessages, Forest.frames_inputs]
    exact Forest.openAfter_frames f []
  refine ⟨Forest.messages_inputs clock f, hpassed, ?_, ?_, hopened,
    fun now => flush_of_empty now hopened⟩
  · rw [← hpassed]
    exact after_snapshot inputs (start file limit zone)
  · intro i line ending hline
    have hstep : state (i + 1) = ((state i).pushLine (clock i) line).1 :=
      after_take_succ (Forest.input_of_written hline) _
    have hcompletes : completes (Input.frame? (.line (clock i) line)) (state i).openMessages =
        ending.toList := Forest.completes_of_written hline rfl
    refine ⟨hstep.symm, ?_⟩
    rw [hstep]
    cases ending with
    | none =>
      exact ⟨(step_answer (.line (clock i) line) _).trans (if_pos hcompletes), nofun⟩
    | some m =>
      have hzone : (state i).zone = zone := after_zone _ _
      obtain ⟨hsnapshot, hanswer⟩ := step_of_completes hcompletes
      rw [hzone] at hsnapshot
      refine ⟨hanswer, fun m' hm' => ?_⟩
      cases hm'
      exact hsnapshot

-- the message inside comes first
example : (Forest.message 1 0 (.message 2 0 .nil .nil) .nil).messages = [⟨2, 0, []⟩, ⟨1, 0, []⟩] :=
  rfl

end ModelCheck.Output
