import Mathlib.Data.List.Induction
import ModelCheck.Proofs.Output.Run

/-!
# The verdict of a run

An error among the applied messages makes the verdict, whatever else there is; without one, a message
of success does. So the verdict follows from which messages were applied, and their order does not
matter.
-/

namespace ModelCheck

namespace Message

/-- Whether a message is an error of the model or a bug of the checker. -/
def IsError (m : Message) : Prop := m.severity = 1 ∨ m.severity = 2

/-- Whether a message tells that no error has been found. As an error or a warning it would not. -/
def IsSuccess (m : Message) : Prop :=
  m.code = 2193 ∧ m.severity ≠ 1 ∧ m.severity ≠ 2 ∧ m.severity ≠ 3

instance (m : Message) : Decidable m.IsError := inferInstanceAs (Decidable (_ ∨ _))

instance (m : Message) : Decidable m.IsSuccess := inferInstanceAs (Decidable (_ ∧ _))

variable {m : Message}

/-- An error is by its kind a trace header or an error of its own. -/
theorem kind_of_error (h : m.IsError) : m.kind = .traceHeader ∨ m.kind = .error := by
  unfold IsError at h
  rw [kind, if_pos h]
  split
  · exact .inl rfl
  · exact .inr rfl

/-- A message of the warning severity is a warning by its kind. -/
theorem kind_of_warning (h : m.severity = 3) : m.kind = .warning := by
  rw [kind, if_neg (by omega), if_pos h]

/-- A message that is neither an error nor a warning is a notice by its kind. -/
theorem kind_of_notice (herror : ¬m.IsError) (hwarning : m.severity ≠ 3) : m.kind = .notice := by
  unfold IsError at herror
  rw [kind, if_neg herror, if_neg hwarning]

/-- Just one code tells of success. -/
theorem ofCode_eq_success_iff (code : Nat) : Topic.ofCode code = .success ↔ code = 2193 := by
  grind [Topic.ofCode]

end Message

/-- The verdict on messages, whatever their order. -/
def Verdict.ofMessages (messages : List Message) : Option Verdict :=
  if ∃ m ∈ messages, m.IsError then some .error
  else if ∃ m ∈ messages, m.IsSuccess then some .success
  else none

namespace Verdict

variable {messages messages' : List Message}

/-- The verdict of messages is an error just if one of them is an error, whatever the others are. -/
theorem ofMessages_eq_error_iff :
    ofMessages messages = some .error ↔ ∃ m ∈ messages, m.IsError := by
  unfold ofMessages
  split
  · next h => exact iff_of_true rfl h
  · next h => exact iff_of_false (by split <;> nofun) h

/-- It is success just if one of them tells so and none is an error. -/
theorem ofMessages_eq_success_iff :
    ofMessages messages = some .success ↔
      (¬∃ m ∈ messages, m.IsError) ∧ ∃ m ∈ messages, m.IsSuccess := by
  unfold ofMessages
  split
  · next h => exact iff_of_false nofun fun hsuccess => hsuccess.1 h
  · next h =>
    split
    · next hsuccess => exact iff_of_true rfl ⟨h, hsuccess⟩
    · next hsuccess => exact iff_of_false nofun fun h => hsuccess h.2

/-- There is none just if no message is an error and none tells of success. -/
theorem ofMessages_eq_none_iff :
    ofMessages messages = none ↔
      (¬∃ m ∈ messages, m.IsError) ∧ ¬∃ m ∈ messages, m.IsSuccess := by
  unfold ofMessages
  split
  · next h => exact iff_of_false nofun fun hnone => hnone.1 h
  · next h =>
    split
    · next hsuccess => exact iff_of_false nofun fun hnone => hnone.2 hsuccess
    · next hsuccess => exact iff_of_true rfl ⟨h, hsuccess⟩

/-- What one more message does to the verdict on messages. -/
theorem ofMessages_concat (messages : List Message) (m : Message) :
    ofMessages (messages ++ [m]) =
      if m.IsError then some .error
      else if m.IsSuccess then some ((ofMessages messages).getD .success)
      else ofMessages messages := by
  have herror : (∃ e ∈ messages ++ [m], e.IsError) ↔ (∃ e ∈ messages, e.IsError) ∨ m.IsError := by
    simp [or_and_right, exists_or]
  have hsuccess : (∃ e ∈ messages ++ [m], e.IsSuccess) ↔
      (∃ e ∈ messages, e.IsSuccess) ∨ m.IsSuccess := by
    simp [or_and_right, exists_or]
  unfold ofMessages
  by_cases hm : m.IsError
  · rw [if_pos (herror.mpr (.inr hm)), if_pos hm]
  rw [if_neg hm]
  by_cases hearlier : ∃ e ∈ messages, e.IsError
  · -- an error that has been applied before stays the verdict
    rw [if_pos (herror.mpr (.inl hearlier)), if_pos hearlier]
    split <;> rfl
  rw [if_neg (by simp only [herror, hearlier, hm, or_false, not_false_iff]), if_neg hearlier]
  by_cases hs : m.IsSuccess
  · rw [if_pos (hsuccess.mpr (.inr hs)), if_pos hs]
    split <;> rfl
  · simp only [hsuccess, hs, or_false, if_false]

/-- The verdict does not depend on the order of the messages. -/
theorem ofMessages_perm (h : messages.Perm messages') :
    ofMessages messages = ofMessages messages' := by
  unfold ofMessages
  simp only [h.mem_iff]

end Verdict

namespace Snapshot

variable {zone : Zone}

/-- A notice changes the verdict by telling of success, and only if there is none yet. -/
theorem note_verdict (now : Moment) (m : Message) (s : Snapshot) :
    (s.note zone now m).verdict =
      if m.code = 2193 then some (s.verdict.getD .success) else s.verdict := by
  simp only [← Message.ofCode_eq_success_iff, note]
  cases Message.Topic.ofCode m.code <;> rfl

/-- What a message does to the verdict. -/
theorem verdict_apply (now : Moment) (m : Message) (s : Snapshot) :
    (s.apply zone now m).verdict =
      if m.IsError then some .error
      else if m.IsSuccess then some (s.verdict.getD .success)
      else s.verdict := by
  by_cases herror : m.IsError
  · rw [if_pos herror]
    rcases Message.kind_of_error herror with hkind | hkind <;> rw [apply, hkind]
  · rw [if_neg herror]
    by_cases hwarning : m.severity = 3
    · rw [if_neg fun hsuccess => hsuccess.2.2.2 hwarning, apply, Message.kind_of_warning hwarning]
    · have hsuccess : m.IsSuccess ↔ m.code = 2193 := by
        unfold Message.IsError at herror
        unfold Message.IsSuccess
        omega
      simp only [apply, Message.kind_of_notice herror hwarning, note_verdict, hsuccess]

/-- The verdict on the messages that have been applied. -/
theorem verdict_applyAll (file : Path) (applied : List (Moment × Message)) :
    ((initial file).applyAll zone applied).verdict = Verdict.ofMessages (applied.map Prod.snd) := by
  induction applied using List.reverseRecOn with
  | nil => rfl
  | append_singleton front p ih =>
    rw [applyAll_append, applyAll, applyAll, verdict_apply, ih, List.map_append, List.map_singleton,
      Verdict.ofMessages_concat]

end Snapshot

namespace Output

/-- After a run of reading the verdict is that on the messages that have been applied. -/
theorem verdict_after (file : Path) (limit : Nat) (zone : Zone) (inputs : List Input) :
    ((start file limit zone).after inputs).snapshot.verdict = Verdict.ofMessages (messages inputs) := by
  rw [after_snapshot]
  exact Snapshot.verdict_applyAll file (applied inputs [])

/-- After any lines, and any flushes, the verdict is an error just if a message of severity 1 or 2 has
been applied. It is success just if there is none, but a message of success that is neither an error
nor a warning, and there is no verdict otherwise. Where the same messages have been applied in another
order, in any other run, the verdict is the same. -/
theorem verdict_by_messages (file : Path) (limit : Nat) (zone : Zone) (inputs : List Input) :
    let verdict := ((start file limit zone).after inputs).snapshot.verdict
    (verdict = some .error ↔ ∃ m ∈ messages inputs, m.IsError) ∧
      (verdict = some .success ↔
        (¬∃ m ∈ messages inputs, m.IsError) ∧ ∃ m ∈ messages inputs, m.IsSuccess) ∧
      (verdict = none ↔
        (¬∃ m ∈ messages inputs, m.IsError) ∧ ¬∃ m ∈ messages inputs, m.IsSuccess) ∧
      ∀ (file' : Path) (limit' : Nat) (zone' : Zone) (inputs' : List Input),
        (messages inputs').Perm (messages inputs) →
          ((start file' limit' zone').after inputs').snapshot.verdict = verdict := by
  intro verdict
  have hverdict : verdict = Verdict.ofMessages (messages inputs) := verdict_after file limit zone inputs
  rw [hverdict]
  refine ⟨Verdict.ofMessages_eq_error_iff, Verdict.ofMessages_eq_success_iff,
    Verdict.ofMessages_eq_none_iff, fun file' limit' zone' inputs' hperm => ?_⟩
  rw [verdict_after, Verdict.ofMessages_perm hperm]

/-- The lines of an error. -/
def violation : List Input :=
  [.line default "@!@!@STARTMSG 2110:1 @!@!@".toList,
    .line default "Invariant TypeOK is violated.".toList,
    .line default "@!@!@ENDMSG 2110 @!@!@".toList]

/-- The lines of a message that no error has been found. -/
def completion : List Input :=
  [.line default "@!@!@STARTMSG 2193:0 @!@!@".toList,
    .line default "Model checking completed.".toList,
    .line default "@!@!@ENDMSG 2193 @!@!@".toList]

/-- An error is the verdict also behind a message of success. -/
theorem verdict_of_violation :
    (messages (completion ++ violation)).Perm (messages (violation ++ completion)) ∧
      ((start ⟨"/specs/Queue.tla"⟩).after (completion ++ violation)).snapshot.verdict =
        ((start ⟨"/specs/Queue.tla"⟩).after (violation ++ completion)).snapshot.verdict ∧
      ((start ⟨"/specs/Queue.tla"⟩).after (violation ++ completion)).snapshot.verdict =
        some .error := by
  have hperm : (messages (completion ++ violation)).Perm (messages (violation ++ completion)) := by
    decide
  obtain ⟨herror, _, _, hsame⟩ :=
    verdict_by_messages ⟨"/specs/Queue.tla"⟩ defaultTailLimit .utc (violation ++ completion)
  exact ⟨hperm, hsame _ _ _ _ hperm, herror.mpr (by decide)⟩

end Output

end ModelCheck
