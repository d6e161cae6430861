import ModelCheck.Proofs.Frame.Grammar
import ModelCheck.Proofs.Output.Run

/-!
# The tail of the output

Text that is in no message is kept, but only its last lines, as many as the limit allows. Which text
that is follows from a count of the open messages, so it is said here without the messages themselves.
The queue gives up its first line for a new one when it is full, so what it holds is the end of all the
lines that it has got.
-/

namespace ModelCheck.Output

/-! ### The last lines -/

/-- Whether `tail` is the end of `texts`: the last `limit` lines, or all if there are no more. -/
structure IsTail (limit : Nat) (texts tail : List String) : Prop where
  suffix : tail <:+ texts
  length : tail.length = min limit texts.length

namespace IsTail

variable {limit : Nat} {texts tail : List String}

/-- Nothing has an empty tail. -/
theorem nil (limit : Nat) : IsTail limit [] [] := ⟨List.suffix_rfl, (Nat.min_zero limit).symm⟩

/-- A line that goes behind all lines goes behind their tail. -/
theorem suffix_concat (h : IsTail limit texts tail) (line : String) :
    tail ++ [line] <:+ texts ++ [line] := by
  obtain ⟨front, rfl⟩ := h.suffix
  exact ⟨front, (List.append_assoc front tail [line]).symm⟩

/-- With one more line taken, a queue that is the tail is the tail again. -/
theorem enqueue (h : IsTail limit texts tail) (line : String) :
    IsTail limit (texts ++ [line]) (enqueue limit tail line) := by
  have hlength := h.length
  have hmore : (texts ++ [line]).length = texts.length + 1 := List.length_append
  by_cases hlimit : limit = 0
  · have hempty : tail = [] := List.eq_nil_of_length_eq_zero (by omega)
    rw [Output.enqueue, if_pos hlimit, hempty]
    refine ⟨List.nil_suffix, ?_⟩
    rw [hlimit, Nat.zero_min, List.length_nil]
  rw [Output.enqueue, if_neg hlimit]
  by_cases hfull : tail.length = limit
  · -- the line that is given up stood in front, so what is left still ends the texts
    have hsuffix : tail.tail ++ [line] <:+ tail ++ [line] := by
      obtain ⟨front, hfront⟩ := List.tail_suffix tail
      exact ⟨front, by rw [← List.append_assoc, hfront]⟩
    rw [if_pos hfull]
    refine ⟨hsuffix.trans (h.suffix_concat line), ?_⟩
    rw [hmore, List.length_append, List.length_tail, List.length_singleton]
    omega
  · rw [if_neg hfull]
    refine ⟨h.suffix_concat line, ?_⟩
    rw [hmore, List.length_append, List.length_singleton]
    omega

/-- The queue is the tail of all lines, however many it gets. -/
theorem enqueueAll (h : IsTail limit texts tail) (more : List String) :
    IsTail limit (texts ++ more) (more.foldl (Output.enqueue limit) tail) := by
  induction more generalizing texts tail with
  | nil => rwa [List.append_nil]
  | cons line rest ih =>
    have hrest := ih (h.enqueue line)
    rwa [List.append_assoc] at hrest

end IsTail

/-! ### Text outside messages -/

/-- The text of a line that is no frame line, without the line's ending. -/
def Input.text? : Input → Option String
  | .line _ content =>
    match Frame.classify content with
    | .text _ => some (String.ofList (Frame.stripEnding content))
    | _ => none
  | .flush _ => none

/-- How many messages are open after a frame, or after a flush, where `depth` were open before it. -/
def nextDepth : Option Frame → Nat → Nat
  | none, _ => 0
  | some (.start _ _), depth => depth + 1
  | some (.stop _), depth => depth - 1
  | some (.text _), depth => depth

/-- How many messages are open after frames. -/
def depthAfter : List (Option Frame) → Nat → Nat
  | [], depth => depth
  | frame :: rest, depth => depthAfter rest (nextDepth frame depth)

/-- The text of the lines that come while no message is open, where `depth` are open at first. -/
def outside : Nat → List Input → List String
  | _, [] => []
  | depth, i :: rest =>
    (if depth = 0 then i.text?.toList else []) ++ outside (nextDepth i.frame? depth) rest

/-- How many messages are open next depends on how many are open, and not on which. -/
theorem length_nextOpen (frame : Option Frame) (opened : List Message) :
    (nextOpen frame opened).length = nextDepth frame opened.length := by
  rcases frame with _ | (⟨code, severity⟩ | code | content)
  · rfl
  · rfl
  · exact List.length_tail
  · cases opened <;> rfl

/-- How many messages frames leave open depends on how many were open, and not on which. -/
theorem length_openAfter (frames : List (Option Frame)) (opened : List Message) :
    (openAfter frames opened).length = depthAfter frames opened.length := by
  induction frames generalizing opened with
  | nil => rfl
  | cons frame rest ih => rw [openAfter, ih, length_nextOpen, depthAfter]

/-- The text that an input passes on is that of its line, if no message is open. -/
theorem passes_eq (i : Input) (opened : List Message) :
    passes i.frame? opened = if opened.length = 0 then i.text?.toList else [] := by
  cases i with
  | flush now => exact (ite_self []).symm
  | line now content =>
    rw [Input.frame?, Input.text?]
    cases hframe : Frame.classify content with
    | start code severity => exact (ite_self []).symm
    | stop code => exact (ite_self []).symm
    | text t =>
      cases Frame.classify_eq_iff.mp hframe
      cases opened <;> rfl

/-- The text that belongs to no message is what stands outside all of them, counted by start and end
lines. -/
theorem passed_eq (inputs : List Input) (opened : List Message) :
    passed (frames inputs) opened = outside opened.length inputs := by
  induction inputs generalizing opened with
  | nil => rfl
  | cons i rest ih => rw [frames_cons, passed_cons, ih, passes_eq, length_nextOpen, outside]

/-! ### The tail of a run -/

/-- The tail takes the lines outside messages one by one. -/
theorem outputLines_after (inputs : List Input) (o : Output) :
    (o.after inputs).snapshot.outputLines =
      (outside o.openMessages.length inputs).foldl (enqueue o.tailLimit)
        o.snapshot.outputLines := by
  rw [after_snapshot, passed_eq]
  rfl

/-- After any inputs the snapshot has the tail of the text outside messages. -/
theorem isTail_after (file : Path) (limit : Nat) (zone : Zone) (inputs : List Input) :
    IsTail limit (outside 0 inputs) ((start file limit zone).after inputs).snapshot.outputLines := by
  rw [outputLines_after]
  exact (IsTail.nil limit).enqueueAll (outside 0 inputs)

/-- While a message is open no input changes the tail. -/
theorem outputLines_step_of_open {o : Output} (h : o.openMessages ≠ []) (i : Input) :
    (o.step i).1.snapshot.outputLines = o.snapshot.outputLines := by
  have hdepth : o.openMessages.length ≠ 0 := mt List.eq_nil_of_length_eq_zero h
  have hnone : outside o.openMessages.length [i] = [] := by
    rw [outside, if_neg hdepth, outside, List.append_nil]
  exact (outputLines_after [i] o).trans (by rw [hnone, List.foldl_nil])

/-- After each of any lines and flushes the tail is the end of the text that has come while no message was
open, without the endings of its lines: as many of them as the limit allows, and never more. It is what a
queue holds that gives up its first line when it is full. The open messages are as many as have been
counted. What comes while one is open leaves the tail alone, and every snapshot that is delivered has the
tail of its moment. -/
theorem tail_exact (file : Path) (limit : Nat) (zone : Zone) (inputs : List Input) :
    let state := fun k => (start file limit zone).after (inputs.take k)
    let texts := fun k => outside 0 (inputs.take k)
    let tail := fun k => (state k).snapshot.outputLines
    (∀ k, IsTail limit (texts k) (tail k) ∧ (tail k).length ≤ limit ∧
      tail k = (texts k).foldl (enqueue limit) [] ∧
      (state k).openMessages.length = depthAfter (frames (inputs.take k)) 0) ∧
    (∀ k, (state k).openMessages ≠ [] → tail (k + 1) = tail k) ∧
    ∀ k s, ((start file limit zone).answers inputs)[k]? = some (some s) →
      s.outputLines = tail (k + 1) := by
  intro state texts tail
  refine ⟨fun k => ?_, fun k hopen => ?_, fun k s hs => ?_⟩
  · have htail : IsTail limit (texts k) (tail k) := isTail_after file limit zone (inputs.take k)
    have hqueue : tail k = (texts k).foldl (enqueue limit) [] := outputLines_after ..
    have hlength := htail.length
    refine ⟨htail, by omega, hqueue, ?_⟩
    rw [after_openMessages]
    exact length_openAfter _ []
  · cases hinput : inputs[k]? with
    | none =>
      have hend : inputs.take (k + 1) = inputs.take k := by
        rw [List.take_add_one, hinput, Option.toList_none, List.append_nil]
      simp only [tail, state, hend]
    | some i =>
      have hstep : state (k + 1) = ((state k).step i).1 := after_take_succ hinput _
      simp only [tail, hstep]
      exact outputLines_step_of_open hopen i
  · rw [getElem?_answers] at hs
    obtain ⟨i, hinput, hanswer⟩ := Option.map_eq_some_iff.mp hs
    have hstep : state (k + 1) = ((state k).step i).1 := after_take_succ hinput _
    rw [step_answer] at hanswer
    split at hanswer
    · cases hanswer
    · rw [← Option.some.inj hanswer, ← hstep]

/-- Lines with several endings around a message with text inside. -/
def interleaved : List Input :=
  [.line default "one\r\n".toList, .line default "@!@!@STARTMSG 2262:0 @!@!@\n".toList,
    .line default "inside\n".toList, .line default "@!@!@ENDMSG 2262 @!@!@\n".toList,
    .line default "two\n".toList, .line default "three\n\r".toList]

/-- With room for two lines, the text inside the message changes nothing, the snapshot that is delivered
with the message has the line before it, and in the end this line is gone. -/
theorem interleaved_tail :
    let o := start ⟨"/specs/Queue.tla"⟩ 2
    (o.after (interleaved.take 2)).openMessages ≠ [] ∧
      (o.after (interleaved.take 3)).snapshot.outputLines =
        (o.after (interleaved.take 2)).snapshot.outputLines ∧
      (∃ s, (o.answers interleaved)[3]? = some (some s) ∧ s.outputLines = ["one"]) ∧
      (o.after (interleaved.take 6)).snapshot.outputLines = ["two", "three"] := by
  intro o
  obtain ⟨htail, hopen, hanswer⟩ := tail_exact ⟨"/specs/Queue.tla"⟩ 2 .utc interleaved
  have hopened : (o.after (interleaved.take 2)).openMessages ≠ [] := by decide
  have hdelivered : (o.answers interleaved)[3]? =
      some (some (o.after (interleaved.take 4)).snapshot) := by decide
  have hone : (o.after (interleaved.take 4)).snapshot.outputLines = ["one"] :=
    (htail 4).2.2.1.trans (by decide)
  have hlast : (o.after (interleaved.take 6)).snapshot.outputLines = ["two", "three"] :=
    (htail 6).2.2.1.trans (by decide)
  exact ⟨hopened, hopen 2 hopened, ⟨_, hdelivered, (hanswer 3 _ hdelivered).trans hone⟩, hlast⟩

end ModelCheck.Output
