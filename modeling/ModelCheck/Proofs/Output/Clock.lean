import ModelCheck.Proofs.Output.Run

/-!
# Clock readings aside

A snapshot holds times that the checker has reported and times that were read from the clock. Without
the readings of the clock, what a run of reading comes to does not depend on its moments.
-/

namespace ModelCheck

/-- A time stamp without what was read from the clock. -/
def Timestamp.timeless : Timestamp → Timestamp
  | .reported moment => .reported moment
  | .observed _ => .observed default

namespace Snapshot

/-- A snapshot without what was read from the clock. -/
def timeless (s : Snapshot) : Snapshot :=
  { s with
    startedAt := s.startedAt.map Timestamp.timeless
    finishedAt := s.finishedAt.map Timestamp.timeless }

/-- The moment at which a message is applied shows in readings of the clock only. -/
theorem timeless_apply (zone : Zone) (now : Moment) (m : Message) (s : Snapshot) :
    (s.apply zone now m).timeless = s.timeless.apply zone default m := by
  unfold apply
  split
  · rfl
  · rfl
  · rfl
  · unfold note
    split
    case h_2 =>
      -- the start of the checker, reported or else observed
      simp only [timeless, Option.map_some]
      cases m.startTime? zone <;> rfl
    all_goals rfl

/-- The moments at which messages are applied show in readings of the clock only. -/
theorem timeless_applyAll (zone : Zone) (applied : List (Moment × Message)) (s : Snapshot) :
    (s.applyAll zone applied).timeless =
      s.timeless.applyAll zone (applied.map fun p => (default, p.2)) := by
  induction applied generalizing s with
  | nil => rfl
  | cons p rest ih => rw [applyAll, ih, timeless_apply]; rfl

end Snapshot

namespace Output

/-- A state of reading without what was read from the clock. -/
def timeless (o : Output) : Output := { o with snapshot := o.snapshot.timeless }

/-- The diagnostics do not tell times. -/
theorem diagnostics_timeless (o : Output) : o.timeless.diagnostics = o.diagnostics := rfl

/-- Which messages are open is not read from the clock. -/
theorem openMessages_timeless (o : Output) : o.timeless.openMessages = o.openMessages := rfl

variable {o o' : Output}

/-- What a frame leads to, its moment aside. -/
theorem successor_timeless (now : Moment) (frame : Option Frame) (o : Output) :
    (o.successor now frame).timeless = o.timeless.successor default frame := by
  have hsnapshot := Snapshot.timeless_applyAll o.zone
    ((completes frame o.openMessages).map (now, ·)) o.snapshot
  rw [List.map_map] at hsnapshot
  rw [timeless, successor, successor, Output.mk.injEq]
  refine ⟨?_, rfl, rfl, rfl⟩
  exact congrArg (Snapshot.withTail _) hsnapshot

/-- Inputs with the same frame lead to the same state and deliver the same, clock readings aside. -/
theorem step_congr {i i' : Input} (hframe : i.frame? = i'.frame?) (ho : o.timeless = o'.timeless) :
    (o.step i).1.timeless = (o'.step i').1.timeless ∧
      (o.step i).2.map Snapshot.timeless = (o'.step i').2.map Snapshot.timeless := by
  have hopened : o.openMessages = o'.openMessages := by
    rw [← openMessages_timeless, ho, openMessages_timeless]
  have hsuccessor : (o.successor i.now i.frame?).timeless =
      (o'.successor i'.now i'.frame?).timeless := by
    rw [successor_timeless, successor_timeless, ho, hframe]
  rw [step_eq, step_eq]
  refine ⟨hsuccessor, ?_⟩
  rw [hframe] at hsuccessor ⊢
  rw [hopened]
  split
  · rfl
  · exact congrArg (fun o => some o.snapshot) hsuccessor

/-- Runs over the same frames come to the same, clock readings aside. -/
theorem run_congr {inputs inputs' : List Input} (hframes : frames inputs = frames inputs')
    (ho : o.timeless = o'.timeless) :
    (o.after inputs).timeless = (o'.after inputs').timeless ∧
      (o.answers inputs).map (Option.map Snapshot.timeless) =
        (o'.answers inputs').map (Option.map Snapshot.timeless) := by
  induction inputs generalizing o o' inputs' with
  | nil =>
    cases inputs' with
    | nil => exact ⟨ho, rfl⟩
    | cons i' rest' => cases hframes
  | cons i rest ih =>
    cases inputs' with
    | nil => cases hframes
    | cons i' rest' =>
      rw [frames_cons, frames_cons, List.cons.injEq] at hframes
      obtain ⟨hstate, hanswer⟩ := step_congr hframes.1 ho
      obtain ⟨hafter, hanswers⟩ := ih hframes.2 hstate
      refine ⟨hafter, ?_⟩
      rw [answers, answers, List.map_cons, List.map_cons, hanswer, hanswers]

/-- Inputs with the same frames leave the same state, clock readings aside. -/
theorem after_congr {inputs inputs' : List Input} (hframes : frames inputs = frames inputs')
    (ho : o.timeless = o'.timeless) : (o.after inputs).timeless = (o'.after inputs').timeless :=
  (run_congr hframes ho).1

/-- What is delivered without its clock readings are the answers without theirs. -/
theorem delivered_map (inputs : List Input) (o : Output) :
    (o.delivered inputs).map Snapshot.timeless =
      ((o.answers inputs).map (Option.map Snapshot.timeless)).filterMap id := by
  rw [delivered, List.filterMap_map, List.map_filterMap]
  rfl

/-- Inputs with the same frames deliver the same snapshots, clock readings aside. -/
theorem delivered_congr {inputs inputs' : List Input} (hframes : frames inputs = frames inputs')
    (ho : o.timeless = o'.timeless) :
    (o.delivered inputs).map Snapshot.timeless = (o'.delivered inputs').map Snapshot.timeless := by
  rw [delivered_map, delivered_map, (run_congr hframes ho).2]

/-- Two runs from one state come to the same, clock readings aside, if they complete the same messages,
pass on the same text and leave the same messages open. -/
theorem after_congr_of_messages {inputs inputs' : List Input} (o : Output)
    (hmessages : (applied inputs o.openMessages).map Prod.snd =
      (applied inputs' o.openMessages).map Prod.snd)
    (hpassed : passed (frames inputs) o.openMessages = passed (frames inputs') o.openMessages)
    (hopened : openAfter (frames inputs) o.openMessages =
      openAfter (frames inputs') o.openMessages) :
    (o.after inputs).timeless = (o.after inputs').timeless := by
  have happlied : ∀ messages : List (Moment × Message),
      (o.snapshot.applyAll o.zone messages).timeless =
        o.snapshot.timeless.applyAll o.zone ((messages.map Prod.snd).map (default, ·)) := by
    intro messages
    rw [Snapshot.timeless_applyAll, List.map_map]
    rfl
  have htail : ∀ (tail : List String) (s : Snapshot),
      (s.withTail tail).timeless = s.timeless.withTail tail := fun _ _ => rfl
  rw [timeless, timeless, Output.mk.injEq]
  refine ⟨?_, ?_, ?_, ?_⟩
  · rw [after_snapshot, after_snapshot, htail, htail, happlied, happlied, hmessages, hpassed]
  · rw [after_openMessages, after_openMessages, hopened]
  · rw [after_tailLimit, after_tailLimit]
  · rw [after_zone, after_zone]

end Output

end ModelCheck
