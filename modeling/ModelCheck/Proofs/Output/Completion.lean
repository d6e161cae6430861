import ModelCheck.Proofs.Output.Clock

/-!
# Every message once

Whatever lines arrive, the messages that have been applied and those that are still open are together
the messages that the start lines have begun, each with the text directly inside it. So none is lost
and none is applied twice; a flush applies what is left, as if an end line had come for each message
that is open.
-/

namespace ModelCheck.Output

/-! ### The messages of start lines -/

/-- Whether a frame begins a message. -/
def isStart : Option Frame → Bool
  | some (.start _ _) => true
  | _ => false

/-- The text that frames put directly inside an open message, inside which `depth` others are open,
up to its end. A flush ends it as well. -/
def inside : Nat → List (Option Frame) → List (List Char)
  | _, [] => []
  | _, none :: _ => []
  | depth, some (.start _ _) :: rest => inside (depth + 1) rest
  | 0, some (.stop _) :: _ => []
  | depth + 1, some (.stop _) :: rest => inside depth rest
  | 0, some (.text content) :: rest => content :: inside 0 rest
  | depth + 1, some (.text _) :: rest => inside (depth + 1) rest

/-- The messages that frames begin, in the order of their start lines, each with the text directly
inside it. -/
def started : List (Option Frame) → List Message
  | [] => []
  | some (.start code severity) :: rest => ⟨code, severity, inside 0 rest⟩ :: started rest
  | some (.stop _) :: rest => started rest
  | some (.text _) :: rest => started rest
  | none :: rest => started rest

/-- There are as many as start lines. -/
theorem length_started (frames : List (Option Frame)) :
    (started frames).length = frames.countP isStart := by
  induction frames with
  | nil => rfl
  | cons frame rest ih =>
    rcases frame with _ | (⟨code, severity⟩ | code | content)
    all_goals simp [started, isStart, List.countP_cons, ih]

/-- Open messages, the innermost with `depth` others inside it, with the text that frames still put
into them. -/
def extended : Nat → List Message → List (Option Frame) → List Message
  | _, [], _ => []
  | depth, m :: outer, frames =>
    { m with lines := m.lines ++ inside depth frames } :: extended (depth + 1) outer frames

section Extended

variable (depth : Nat) (opened : List Message) (rest : List (Option Frame))

/-- Nothing comes, so nothing is put in. -/
theorem extended_nil : extended depth opened [] = opened := by
  induction opened generalizing depth with
  | nil => rfl
  | cons m outer ih => rw [extended, ih, inside, List.append_nil]

/-- A flush ends all messages, so nothing comes behind it. -/
theorem extended_flush : extended depth opened (none :: rest) = opened := by
  induction opened generalizing depth with
  | nil => rfl
  | cons m outer ih => rw [extended, ih, inside, List.append_nil]

/-- A start line opens one more message inside all of them. -/
theorem extended_start (code severity : Nat) :
    extended depth opened (some (.start code severity) :: rest) =
      extended (depth + 1) opened rest := by
  induction opened generalizing depth with
  | nil => rfl
  | cons m outer ih => rw [extended, extended, ih, inside]

/-- An end line is that of a message further inside. -/
theorem extended_stop (code : Nat) :
    extended (depth + 1) opened (some (.stop code) :: rest) = extended depth opened rest := by
  induction opened generalizing depth with
  | nil => rfl
  | cons m outer ih => rw [extended, extended, ih, inside]

/-- Text belongs to a message further inside. -/
theorem extended_text (content : List Char) :
    extended (depth + 1) opened (some (.text content) :: rest) = extended (depth + 1) opened rest := by
  induction opened generalizing depth with
  | nil => rfl
  | cons m outer ih => rw [extended, extended, ih, inside]

end Extended

/-- The messages that frames complete, in order. -/
def completed (frames : List (Option Frame)) (opened : List Message) : List Message :=
  (along completes frames opened).flatten

/-- What the first frame completes comes before what the others complete. -/
theorem completed_cons (frame : Option Frame) (rest : List (Option Frame))
    (opened : List Message) : completed (frame :: rest) opened =
      completes frame opened ++ completed rest (nextOpen frame opened) := rfl

/-- The messages that are completed and those left open are the ones open at first, with the text
still to come, and the ones begun since. -/
theorem completed_perm (frames : List (Option Frame)) (opened : List Message) :
    (completed frames opened ++ openAfter frames opened).Perm
      (extended 0 opened frames ++ started frames) := by
  induction frames generalizing opened with
  | nil => rw [extended_nil, started, List.append_nil]; exact .refl _
  | cons frame rest ih =>
    rw [completed_cons, openAfter, List.append_assoc]
    rcases frame with _ | (⟨code, severity⟩ | code | content)
    · rw [extended_flush, started]
      exact (ih []).append_left opened
    · rw [extended_start, started]
      exact (ih (⟨code, severity, []⟩ :: opened)).trans List.perm_middle.symm
    · cases opened with
      | nil => exact ih []
      | cons m outer =>
        rw [extended, extended_stop, inside, List.append_nil, started]
        exact (ih outer).cons m
    · cases opened with
      | nil => exact ih []
      | cons m outer =>
        have h := ih ({ m with lines := m.lines ++ [content] } :: outer)
        rw [extended, List.append_assoc] at h
        rw [extended, extended_text, inside, started]
        exact h

/-! ### End lines for all that is open -/

/-- Whether an input is an end line. -/
def Input.isStop (i : Input) : Prop := ∃ code, i.frame? = some (.stop code)

/-- End lines, one for each open message, complete just these and pass nothing on. -/
theorem frames_of_stops {ends : List Input} {opened : List Message}
    (hlength : ends.length = opened.length) (hends : ∀ i ∈ ends, i.isStop) :
    completed (frames ends) opened = opened ∧ passed (frames ends) opened = [] ∧
      openAfter (frames ends) opened = [] := by
  induction ends generalizing opened with
  | nil =>
    obtain rfl : opened = [] := List.eq_nil_of_length_eq_zero hlength.symm
    exact ⟨rfl, rfl, rfl⟩
  | cons i rest ih =>
    cases opened with
    | nil => cases hlength
    | cons m outer =>
      obtain ⟨code, hcode⟩ := hends i List.mem_cons_self
      obtain ⟨hcompleted, hpassed, hopened⟩ := ih (Nat.succ.inj hlength)
        fun j hj => hends j (List.mem_cons_of_mem i hj)
      rw [frames_cons, hcode, completed_cons, passed_cons, openAfter]
      exact ⟨congrArg (m :: ·) hcompleted, hpassed, hopened⟩

variable {o : Output} {ends : List Input}

/-- The last snapshot that end lines for all that is open deliver is that of the state they leave. -/
theorem getLast?_delivered_of_stops (hlength : ends.length = o.openMessages.length)
    (hends : ∀ i ∈ ends, i.isStop) :
    (o.delivered ends).getLast? =
      if o.openMessages = [] then none else some (o.after ends).snapshot := by
  induction ends generalizing o with
  | nil =>
    have hnone : o.openMessages = [] := List.eq_nil_of_length_eq_zero hlength.symm
    rw [if_pos hnone]
    rfl
  | cons i rest ih =>
    obtain ⟨code, hcode⟩ := hends i List.mem_cons_self
    cases hopened : o.openMessages with
    | nil => rw [hopened] at hlength; cases hlength
    | cons m outer =>
      have houter : (o.step i).1.openMessages = outer := by
        rw [step_openMessages, hcode, hopened]
        rfl
      have hanswer : (o.step i).2 = some (o.step i).1.snapshot := by
        rw [step_answer, hcode, hopened]
        rfl
      have hrest : rest.length = outer.length := by
        rw [hopened] at hlength
        exact Nat.succ.inj hlength
      have hlast := ih (o := (o.step i).1) (by rw [houter, hrest])
        fun j hj => hends j (List.mem_cons_of_mem i hj)
      have hcons : o.delivered (i :: rest) =
          (o.step i).1.snapshot :: (o.step i).1.delivered rest := by
        rw [delivered_cons, hanswer]
        rfl
      rw [hcons, List.getLast?_cons, hlast, houter, if_neg (List.cons_ne_nil m outer), after]
      split
      · next hnil =>
        rw [hnil] at hrest
        rw [List.eq_nil_of_length_eq_zero hrest]
        rfl
      · rfl

/-- The state after a flush is that after the flush as an input. -/
theorem after_flush (now : Moment) (o : Output) : o.after [.flush now] = (o.flush now).1 := rfl

/-- A flush is as good as an end line for each message that is open, clock readings aside. -/
theorem flush_of_stops (hlength : ends.length = o.openMessages.length)
    (hends : ∀ i ∈ ends, i.isStop) (now : Moment) :
    (o.flush now).1.timeless = (o.after ends).timeless := by
  obtain ⟨hcompleted, hpassed, hopened⟩ := frames_of_stops hlength hends
  rw [← after_flush]
  refine after_congr_of_messages o ?_ hpassed.symm hopened.symm
  rw [applied_messages, applied_messages, ← completed, ← completed, hcompleted]
  exact List.append_nil _

/-- A flush delivers its snapshot if a message is open. -/
theorem flush_answer (now : Moment) (o : Output) :
    (o.flush now).2 = if o.openMessages = [] then none else some (o.flush now).1.snapshot :=
  step_answer (.flush now) o

/-- A flush delivers a snapshot just if a message is open. -/
theorem flush_isSome_iff (now : Moment) (o : Output) :
    (o.flush now).2.isSome ↔ o.openMessages ≠ [] := by
  rw [flush_answer]
  split
  · next h => exact iff_of_false nofun (not_not_intro h)
  · next h => exact iff_of_true rfl h

/-- After a flush no message is open. -/
theorem flush_openMessages (now : Moment) (o : Output) : (o.flush now).1.openMessages = [] :=
  step_openMessages (.flush now) o

/-- With nothing open there is nothing to flush. -/
theorem flush_of_empty (now : Moment) (h : o.openMessages = []) : o.flush now = (o, none) := by
  rw [flush, if_pos (by rw [h]; rfl)]

/-- With nothing open an end line does nothing. -/
theorem pushLine_of_empty (now : Moment) (h : o.openMessages = []) {content : List Char}
    {code : Nat} (hstop : Frame.classify content = .stop code) :
    o.pushLine now content = (o, none) := by
  simp only [pushLine, hstop, h]

/-! ### The account -/

/-- The messages that have been applied in a run and those still open are those that its start lines
have begun. -/
theorem account (inputs : List Input) :
    (messages inputs ++ openAfter (frames inputs) []).Perm (started (frames inputs)) := by
  rw [messages, applied_messages, ← completed]
  exact completed_perm (frames inputs) []

/-- A flush applies what is open. -/
theorem messages_flush (inputs : List Input) (now : Moment) :
    messages (inputs ++ [.flush now]) = messages inputs ++ openAfter (frames inputs) [] := by
  have hflushed : (applied [.flush now] (openAfter (frames inputs) [])).map Prod.snd =
      openAfter (frames inputs) [] := by
    rw [applied_messages]
    exact List.append_nil _
  rw [messages, applied_append, List.map_append, hflushed, messages]

/-- After every run of reading, the snapshot is what the applied messages make of it; these and the
messages still open are the ones that start lines have begun, each once and with the text directly
inside it, and as many as there are start lines. With nothing open an end line does nothing. A flush
leaves nothing open, having applied each of these messages, and delivers a snapshot just if a message
was open; a second one does nothing. It comes to the same as end lines for all that is open, whatever
codes they give, and its snapshot is the last that these deliver. -/
theorem messages_once (file : Path) (limit : Nat) (zone : Zone) (inputs : List Input) :
    let o := (start file limit zone).after inputs
    o.snapshot =
        ((Snapshot.initial file).applyAll zone (applied inputs [])).withTail o.snapshot.outputLines ∧
      (messages inputs ++ o.openMessages).Perm (started (frames inputs)) ∧
      (messages inputs).length + o.openMessages.length = (frames inputs).countP isStart ∧
      (∀ now content code, o.openMessages = [] → Frame.classify content = .stop code →
        o.pushLine now content = (o, none)) ∧
      (∀ now, (o.flush now).1.openMessages = [] ∧
        (messages (inputs ++ [.flush now])).Perm (started (frames inputs)) ∧
        ((o.flush now).2.isSome ↔ o.openMessages ≠ []) ∧
        ∀ later, (o.flush now).1.flush later = ((o.flush now).1, none)) ∧
      ∀ now ends, ends.length = o.openMessages.length → (∀ i ∈ ends, Input.isStop i) →
        (o.flush now).1.timeless = (o.after ends).timeless ∧
        (o.flush now).1.diagnostics = (o.after ends).diagnostics ∧
        (o.flush now).2.map Snapshot.timeless =
          (o.delivered ends).getLast?.map Snapshot.timeless := by
  intro o
  have hopened : o.openMessages = openAfter (frames inputs) [] := after_openMessages inputs _
  have haccount : (messages inputs ++ o.openMessages).Perm (started (frames inputs)) :=
    hopened ▸ account inputs
  refine ⟨?_, haccount, ?_, fun now content code hnone hstop => pushLine_of_empty now hnone hstop,
    fun now => ⟨flush_openMessages now o, ?_, flush_isSome_iff now o, fun later => ?_⟩, ?_⟩
  · have htail : ∀ {s t : Snapshot} {tail : List String}, s = t.withTail tail →
        s = t.withTail s.outputLines := by
      rintro _ _ _ rfl
      rfl
    exact htail (after_snapshot inputs (start file limit zone))
  · have hlength := haccount.length_eq
    rwa [List.length_append, length_started] at hlength
  · rw [messages_flush, ← hopened]
    exact haccount
  · exact flush_of_empty later (flush_openMessages now o)
  · intro now ends hlength hends
    have hstate := flush_of_stops hlength hends now
    refine ⟨hstate, ?_, ?_⟩
    · rw [← diagnostics_timeless, hstate, diagnostics_timeless]
    · rw [flush_answer, getLast?_delivered_of_stops hlength hends]
      split
      · rfl
      · exact congrArg (fun o => some o.snapshot) hstate

/-- Output that breaks off inside a message that stands in another one. -/
def brokenOff : List Input :=
  [.line default "@!@!@STARTMSG 2103:1 @!@!@".toList, .line default "Deadlock reached.".toList,
    .line default "@!@!@STARTMSG 2185:0 @!@!@".toList]

/-- End lines for both, the second with a code that is not that of its message. -/
def lateEnds : List Input :=
  [.line default "@!@!@ENDMSG 2185 @!@!@".toList, .line default "@!@!@ENDMSG 7 @!@!@".toList]

/-- At the start an end line does nothing; for output that has broken off a flush comes to the same as
two late end lines. -/
theorem brokenOff_flushed :
    (start ⟨"/specs/Queue.tla"⟩).openMessages = [] ∧
      Frame.classify "@!@!@ENDMSG 7 @!@!@".toList = .stop 7 ∧
      (start ⟨"/specs/Queue.tla"⟩).pushLine default "@!@!@ENDMSG 7 @!@!@".toList =
        (start ⟨"/specs/Queue.tla"⟩, none) ∧
      lateEnds.length =
        ((start ⟨"/specs/Queue.tla"⟩).after brokenOff).openMessages.length ∧
      (∀ i ∈ lateEnds, Input.isStop i) ∧
      (((start ⟨"/specs/Queue.tla"⟩).after brokenOff).flush default).1.timeless =
        (((start ⟨"/specs/Queue.tla"⟩).after brokenOff).after lateEnds).timeless := by
  have hstray : Frame.classify "@!@!@ENDMSG 7 @!@!@".toList = .stop 7 := by decide
  have hlength : lateEnds.length =
      ((start ⟨"/specs/Queue.tla"⟩).after brokenOff).openMessages.length := by decide
  have hends : ∀ i ∈ lateEnds, Input.isStop i := by
    simp only [lateEnds, List.forall_mem_cons]
    exact ⟨⟨2185, by decide⟩, ⟨7, by decide⟩, nofun⟩
  obtain ⟨_, _, _, hempty, _⟩ := messages_once ⟨"/specs/Queue.tla"⟩ defaultTailLimit .utc []
  obtain ⟨_, _, _, _, _, hflush⟩ := messages_once ⟨"/specs/Queue.tla"⟩ defaultTailLimit .utc brokenOff
  exact ⟨rfl, hstray, hempty default _ 7 rfl hstray, hlength, hends,
    (hflush default lateEnds hlength hends).1⟩

end ModelCheck.Output
