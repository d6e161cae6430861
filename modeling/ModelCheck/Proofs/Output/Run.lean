import Mathlib.Data.List.Basic
import ModelCheck.Output

/-!
# Reading as a run

A run of reading takes lines and completes what is open, each at its moment. Which messages are open
follows from the frames alone, and so do the messages that are completed and the text that belongs to
none. The snapshot is what the completed messages make of it, one after the other, with the tail of
that text.
-/

namespace ModelCheck

namespace Snapshot

variable {s : Snapshot} {zone : Zone} {now : Moment} {m : Message}

/-- A snapshot with another tail of output. -/
def withTail (tail : List String) (s : Snapshot) : Snapshot := { s with outputLines := tail }

/-- A snapshot has its own tail already. -/
theorem withTail_self {tail : List String} (h : s.outputLines = tail) : s.withTail tail = s := by
  rw [← h]
  rfl

/-- The snapshot after messages have been completed, in order, each at its moment. -/
def applyAll (zone : Zone) : List (Moment × Message) → Snapshot → Snapshot
  | [], s => s
  | (now, m) :: rest, s => applyAll zone rest (s.apply zone now m)

/-- Messages leave the tail alone. -/
theorem outputLines_apply (zone : Zone) (now : Moment) (m : Message) (s : Snapshot) :
    (s.apply zone now m).outputLines = s.outputLines := by
  unfold apply
  split
  · rfl
  · rfl
  · rfl
  · unfold note
    split <;> rfl

/-- Messages do not look at the tail. -/
theorem apply_withTail (zone : Zone) (now : Moment) (m : Message) (tail : List String)
    (s : Snapshot) : (s.withTail tail).apply zone now m = (s.apply zone now m).withTail tail := by
  unfold apply
  split
  · rfl
  · rfl
  · rfl
  · unfold note
    split <;> rfl

/-- Messages may be applied in parts. -/
theorem applyAll_append (front rest : List (Moment × Message)) (s : Snapshot) :
    s.applyAll zone (front ++ rest) = (s.applyAll zone front).applyAll zone rest := by
  induction front generalizing s with
  | nil => rfl
  | cons p front ih => exact ih _

/-- Messages that are completed at the same moment. -/
theorem applyAll_map (now : Moment) (messages : List Message) (s : Snapshot) :
    s.applyAll zone (messages.map (now, ·)) = messages.foldl (fun s m => s.apply zone now m) s := by
  induction messages generalizing s with
  | nil => rfl
  | cons m rest ih => exact ih _

/-- No message changes the tail. -/
theorem outputLines_applyAll (applied : List (Moment × Message)) (s : Snapshot) :
    (s.applyAll zone applied).outputLines = s.outputLines := by
  induction applied generalizing s with
  | nil => rfl
  | cons p rest ih => rw [applyAll, ih, outputLines_apply]

/-- Messages do not look at the tail, so it may be set before or after them. -/
theorem applyAll_withTail (applied : List (Moment × Message)) (tail : List String) (s : Snapshot) :
    (s.withTail tail).applyAll zone applied = (s.applyAll zone applied).withTail tail := by
  induction applied generalizing s with
  | nil => rfl
  | cons p rest ih => rw [applyAll, applyAll, apply_withTail, ih]

end Snapshot

namespace Output

/-- What is done with a state of reading at a moment: a line is taken, or all that is open is
completed. -/
inductive Input where
  | line (now : Moment) (content : List Char)
  | flush (now : Moment)

namespace Input

/-- The moment of an input. -/
def now : Input → Moment
  | .line now _ => now
  | .flush now => now

/-- The frame that an input is. A flush is none. -/
def frame? : Input → Option Frame
  | .line _ content => some (Frame.classify content)
  | .flush _ => none

end Input

/-- Takes an input. -/
def step : Input → Output → Output × Option Snapshot
  | .line now content, o => o.pushLine now content
  | .flush now, o => o.flush now

/-- The state that inputs leave. -/
def after : List Input → Output → Output
  | [], o => o
  | i :: rest, o => after rest (o.step i).1

/-- What each of the inputs delivers. -/
def answers : List Input → Output → List (Option Snapshot)
  | [], _ => []
  | i :: rest, o => (o.step i).2 :: answers rest (o.step i).1

/-- The snapshots that inputs deliver. -/
def delivered (inputs : List Input) (o : Output) : List Snapshot := (o.answers inputs).filterMap id

/-! ### What the frames decide -/

/-- The messages that are open after a frame, or after a flush. -/
def nextOpen : Option Frame → List Message → List Message
  | none, _ => []
  | some (.start code severity), opened => ⟨code, severity, []⟩ :: opened
  | some (.stop _), opened => opened.tail
  | some (.text _), [] => []
  | some (.text content), m :: outer => { m with lines := m.lines ++ [content] } :: outer

/-- The messages that a frame or a flush completes, from the innermost outwards. -/
def completes : Option Frame → List Message → List Message
  | none, opened => opened
  | some (.stop _), opened => opened.head?.toList
  | some (.start _ _), _ => []
  | some (.text _), _ => []

/-- The text of a frame that belongs to no message. -/
def passes : Option Frame → List Message → List String
  | some (.text content), [] => [String.ofList content]
  | _, _ => []

/-- The messages that are open after frames. -/
def openAfter : List (Option Frame) → List Message → List Message
  | [], opened => opened
  | frame :: rest, opened => openAfter rest (nextOpen frame opened)

/-- What is found at each of several frames, given the messages that are open there. -/
def along {α : Type} (find : Option Frame → List Message → List α) :
    List (Option Frame) → List Message → List (List α)
  | [], _ => []
  | frame :: rest, opened => find frame opened :: along find rest (nextOpen frame opened)

/-- The messages that inputs complete, in order, each with its moment. -/
def applied : List Input → List Message → List (Moment × Message)
  | [], _ => []
  | i :: rest, opened =>
    (completes i.frame? opened).map (i.now, ·) ++ applied rest (nextOpen i.frame? opened)

/-- The messages that have been applied after inputs, with nothing open at first. -/
def messages (inputs : List Input) : List Message := (applied inputs []).map Prod.snd

/-- The frames of inputs. -/
def frames (inputs : List Input) : List (Option Frame) := inputs.map Input.frame?

/-- The text outside messages that frames pass on. -/
def passed (frames : List (Option Frame)) (opened : List Message) : List String :=
  (along passes frames opened).flatten

/-- The frame of the first input comes first. -/
theorem frames_cons (i : Input) (rest : List Input) :
    frames (i :: rest) = i.frame? :: frames rest := rfl

/-- The frames of inputs come in the order of the inputs. -/
theorem frames_append (front rest : List Input) :
    frames (front ++ rest) = frames front ++ frames rest := List.map_append

/-- What the first frame passes on comes before what the others pass on. -/
theorem passed_cons (frame : Option Frame) (rest : List (Option Frame)) (opened : List Message) :
    passed (frame :: rest) opened = passes frame opened ++ passed rest (nextOpen frame opened) := rfl

section Along

variable {α : Type} (find : Option Frame → List Message → List α)

/-- The messages that are open after all frames are found from those that are open after the first ones.
-/
theorem openAfter_append (front rest : List (Option Frame)) (opened : List Message) :
    openAfter (front ++ rest) opened = openAfter rest (openAfter front opened) := by
  induction front generalizing opened with
  | nil => rfl
  | cons frame front ih => exact ih _

/-- What is found at later frames depends on the earlier ones through the open messages only. -/
theorem along_append (front rest : List (Option Frame)) (opened : List Message) :
    along find (front ++ rest) opened =
      along find front opened ++ along find rest (openAfter front opened) := by
  induction front generalizing opened with
  | nil => rfl
  | cons frame front ih => exact congrArg (find frame opened :: ·) (ih _)

/-- What is found at a frame depends on the messages that the frames before it leave open. -/
theorem getElem?_along (frames : List (Option Frame)) (opened : List Message) (i : Nat) :
    (along find frames opened)[i]? =
      frames[i]?.map fun frame => find frame (openAfter (frames.take i) opened) := by
  induction frames generalizing opened i with
  | nil => rfl
  | cons frame rest ih =>
    cases i with
    | zero => rfl
    | succ i => exact ih _ i

end Along

/-- Later frames pass text on behind that of the earlier ones, given the messages left open by these. -/
theorem passed_append (front rest : List (Option Frame)) (opened : List Message) :
    passed (front ++ rest) opened = passed front opened ++ passed rest (openAfter front opened) := by
  rw [passed, along_append, List.flatten_append, passed, passed]

/-- The completed messages themselves are found along the frames. -/
theorem applied_messages (inputs : List Input) (opened : List Message) :
    (applied inputs opened).map Prod.snd = (along completes (frames inputs) opened).flatten := by
  induction inputs generalizing opened with
  | nil => rfl
  | cons i rest ih =>
    rw [applied, List.map_append, ih]
    simp [frames, along, Function.comp_def]

/-- Later inputs complete messages behind those of the earlier ones, given the messages left open by
these. -/
theorem applied_append (front rest : List Input) (opened : List Message) :
    applied (front ++ rest) opened =
      applied front opened ++ applied rest (openAfter (frames front) opened) := by
  induction front generalizing opened with
  | nil => rfl
  | cons i front ih => rw [List.cons_append, applied, ih, applied, List.append_assoc]; rfl

/-! ### One step -/

/-- The state after a frame or a flush: the messages that it completes have been applied, text outside
messages has gone to the tail, and the open messages are the next ones. -/
def successor (now : Moment) (frame : Option Frame) (o : Output) : Output where
  snapshot :=
    (o.snapshot.applyAll o.zone ((completes frame o.openMessages).map (now, ·))).withTail
      ((passes frame o.openMessages).foldl (enqueue o.tailLimit) o.snapshot.outputLines)
  openMessages := nextOpen frame o.openMessages
  tailLimit := o.tailLimit
  zone := o.zone

/-- Where no text is passed on the tail stays. -/
theorem successor_of_unpassed (now : Moment) {frame : Option Frame} {o : Output}
    (h : passes frame o.openMessages = []) :
    o.successor now frame =
      { o with
        snapshot := o.snapshot.applyAll o.zone ((completes frame o.openMessages).map (now, ·))
        openMessages := nextOpen frame o.openMessages } := by
  rw [successor, h, List.foldl_nil, Snapshot.withTail_self (Snapshot.outputLines_applyAll ..)]

/-- Every step leads to the successor, and delivers its snapshot if it completes a message. -/
theorem step_eq (i : Input) (o : Output) :
    o.step i = (o.successor i.now i.frame?,
      if completes i.frame? o.openMessages = [] then none
      else some (o.successor i.now i.frame?).snapshot) := by
  obtain ⟨snapshot, opened, limit, zone⟩ := o
  cases i with
  | flush now =>
    rw [step, flush, successor_of_unpassed _ rfl, Snapshot.applyAll_map]
    cases opened <;> rfl
  | line now content =>
    rw [step, pushLine, Input.frame?]
    cases Frame.classify content with
    | start code severity =>
      rw [successor_of_unpassed _ rfl]
      rfl
    | stop code =>
      rw [successor_of_unpassed _ rfl]
      cases opened <;> rfl
    | text content =>
      rw [successor]
      cases opened with
      | nil => rfl
      | cons m outer => rfl

/-- The frame of an input decides which messages are open after it. -/
theorem step_openMessages (i : Input) (o : Output) :
    (o.step i).1.openMessages = nextOpen i.frame? o.openMessages := by
  rw [step_eq]
  rfl

/-- No step changes how long the tail may be. -/
theorem step_tailLimit (i : Input) (o : Output) : (o.step i).1.tailLimit = o.tailLimit := by
  rw [step_eq]
  rfl

/-- No step changes the zone. -/
theorem step_zone (i : Input) (o : Output) : (o.step i).1.zone = o.zone := by
  rw [step_eq]
  rfl

/-- A step applies the messages that its frame completes, and puts the text that it passes on into the
tail. -/
theorem step_snapshot (i : Input) (o : Output) :
    (o.step i).1.snapshot =
      (o.snapshot.applyAll o.zone ((completes i.frame? o.openMessages).map (i.now, ·))).withTail
        ((passes i.frame? o.openMessages).foldl (enqueue o.tailLimit) o.snapshot.outputLines) := by
  rw [step_eq]
  rfl

/-- A step delivers the snapshot that it leaves, just if its frame completes a message. -/
theorem step_answer (i : Input) (o : Output) :
    (o.step i).2 =
      if completes i.frame? o.openMessages = [] then none else some (o.step i).1.snapshot := by
  rw [step_eq]

/-- What completes a message is no text outside messages. -/
theorem passes_of_completes {frame : Option Frame} {opened : List Message}
    (h : completes frame opened ≠ []) : passes frame opened = [] := by
  rcases frame with _ | (⟨code, severity⟩ | code | content)
  · rfl
  · rfl
  · rfl
  · exact absurd rfl h

/-- A step that completes one message delivers the snapshot right after this message has been
applied. -/
theorem step_of_completes {i : Input} {o : Output} {m : Message}
    (h : completes i.frame? o.openMessages = [m]) :
    (o.step i).1.snapshot = o.snapshot.apply o.zone i.now m ∧
      (o.step i).2 = some (o.step i).1.snapshot := by
  have hne : completes i.frame? o.openMessages ≠ [] := by
    rw [h]
    exact List.cons_ne_nil m []
  refine ⟨?_, ?_⟩
  · rw [step_eq, successor_of_unpassed _ (passes_of_completes hne), h]
    rfl
  · rw [step_answer, if_neg hne]

/-! ### Whole runs -/

/-- Inputs may be taken in parts. -/
theorem after_append (front rest : List Input) (o : Output) :
    o.after (front ++ rest) = (o.after front).after rest := by
  induction front generalizing o with
  | nil => rfl
  | cons i front ih => exact ih _

/-- The last input is taken in the state that the others leave. -/
theorem after_concat (inputs : List Input) (i : Input) (o : Output) :
    o.after (inputs ++ [i]) = ((o.after inputs).step i).1 := after_append ..

/-- Later inputs are answered as if they were taken from the state that the earlier ones leave. -/
theorem answers_append (front rest : List Input) (o : Output) :
    o.answers (front ++ rest) = o.answers front ++ (o.after front).answers rest := by
  induction front generalizing o with
  | nil => rfl
  | cons i front ih => exact congrArg ((o.step i).2 :: ·) (ih _)

/-- What the first input delivers comes first, if it delivers anything. -/
theorem delivered_cons (i : Input) (rest : List Input) (o : Output) :
    o.delivered (i :: rest) = (o.step i).2.toList ++ (o.step i).1.delivered rest := by
  rw [delivered, answers, delivered]
  cases (o.step i).2 <;> rfl

/-- One input delivers at most one snapshot. -/
theorem delivered_singleton (i : Input) (o : Output) : o.delivered [i] = (o.step i).2.toList := by
  rw [delivered_cons]
  exact List.append_nil _

/-- Later inputs deliver their snapshots behind those of the earlier ones. -/
theorem delivered_append (front rest : List Input) (o : Output) :
    o.delivered (front ++ rest) = o.delivered front ++ (o.after front).delivered rest := by
  rw [delivered, answers_append, List.filterMap_append, delivered, delivered]

/-- The open messages follow from the frames. -/
theorem after_openMessages (inputs : List Input) (o : Output) :
    (o.after inputs).openMessages = openAfter (frames inputs) o.openMessages := by
  induction inputs generalizing o with
  | nil => rfl
  | cons i rest ih => rw [after, ih, step_openMessages]; rfl

/-- Whatever inputs come, the tail may be as long as at the start. -/
theorem after_tailLimit (inputs : List Input) (o : Output) :
    (o.after inputs).tailLimit = o.tailLimit := by
  induction inputs generalizing o with
  | nil => rfl
  | cons i rest ih => rw [after, ih, step_tailLimit]

/-- Whatever inputs come, the zone is that of the start. -/
theorem after_zone (inputs : List Input) (o : Output) : (o.after inputs).zone = o.zone := by
  induction inputs generalizing o with
  | nil => rfl
  | cons i rest ih => rw [after, ih, step_zone]

/-- The snapshot is what the completed messages make of it, in order, with the tail of the text
outside messages. -/
theorem after_snapshot (inputs : List Input) (o : Output) :
    (o.after inputs).snapshot =
      (o.snapshot.applyAll o.zone (applied inputs o.openMessages)).withTail
        ((passed (frames inputs) o.openMessages).foldl (enqueue o.tailLimit)
          o.snapshot.outputLines) := by
  induction inputs generalizing o with
  | nil => exact (Snapshot.withTail_self rfl).symm
  | cons i rest ih =>
    rw [after, ih, step_snapshot, step_openMessages, step_tailLimit, step_zone,
      Snapshot.applyAll_withTail,
      applied, Snapshot.applyAll_append, frames_cons, passed_cons, List.foldl_append]
    rfl

/-- What an input delivers depends on the state that the inputs before it leave. -/
theorem getElem?_answers (inputs : List Input) (o : Output) (i : Nat) :
    (o.answers inputs)[i]? = inputs[i]?.map fun input => ((o.after (inputs.take i)).step input).2 := by
  induction inputs generalizing o i with
  | nil => rfl
  | cons first rest ih =>
    cases i with
    | zero => rfl
    | succ i => exact ih _ i

/-- One more input of a run is one more step. -/
theorem after_take_succ {inputs : List Input} {input : Input} {i : Nat}
    (h : inputs[i]? = some input) (o : Output) :
    o.after (inputs.take (i + 1)) = ((o.after (inputs.take i)).step input).1 := by
  rw [List.take_add_one, h, Option.toList_some, after_concat]

end Output

end ModelCheck
