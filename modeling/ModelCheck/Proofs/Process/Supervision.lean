import Mathlib.Data.List.Induction
import ModelCheck.Process.Supervisor

/-!
# What a supervisor does to its child

Requests come, whoever could make them goes away, the child ends and the supervisor gets to act, all in
any order. A supervisor that waits for its child takes what is queued when it turns to its requests. The
child is killed at most once, in the step that takes the first request. Its end is reported
once: what the report says is fixed in the step that observes the end, and nothing that comes later
changes it.
-/

namespace ModelCheck.Supervisor

variable {s s' : Supervisor} {e : Event} {events before rest : List Event} {code : Option Int}
  {exit : ProcessExit}

/-- How the child ends by an event. -/
def Event.status? : Event → Option WaitStatus
  | .childEnds status => some status
  | _ => none

/-- What a supervisor can do in one step. -/
inductive Transition (s : Supervisor) : Event → Supervisor → Prop where
  /-- The event cannot happen now. -/
  | idle {e : Event} (h : e.status? = none) : Transition s e s
  | ends (status : WaitStatus) :
      Transition s (.childEnds status) { s with ended := s.ended.or (some status) }
  | queues (controlled : s.controlled = true) (stage : s.stage ≠ .stopped) :
      Transition s .request { s with queue := s.queue + 1 }
  | releases : Transition s .release { s with controlled := false }
  /-- The first request that is taken kills the child. -/
  | kills (stage : s.stage = .waiting) (queue : 0 < s.queue) (first : s.terminated = false) :
      Transition s .take
        { s with queue := s.queue - 1, terminated := true, kills := s.kills + 1 }
  | takes (stage : s.stage = .waiting) (queue : 0 < s.queue) (again : s.terminated = true) :
      Transition s .take { s with queue := s.queue - 1 }
  /-- Nobody can make requests any more, which neither kills the child nor counts as a request. -/
  | stopsListening (controlled : s.controlled = false) (queue : s.queue = 0) :
      Transition s .take { s with listening := false }
  | observes {status : WaitStatus} (stage : s.stage = .waiting) (ended : s.ended = some status) :
      Transition s .observe { s with stage := .draining (some status.code) }
  | loses (stage : s.stage = .waiting) : Transition s .waitFails { s with stage := .draining none }
  | reports {code : Option Int} (stage : s.stage = .draining code) :
      Transition s .report
        { s with stage := .reported, reports := s.reports ++ [⟨code, s.terminated⟩] }
  | stops (stage : s.stage = .reported) : Transition s .stop { s with stage := .stopped }

/-- Every step is one of the transitions. -/
theorem transition (s : Supervisor) (e : Event) : Transition s e (s.step e) := by
  cases e with
  | childEnds status => exact .ends status
  | request =>
    simp only [step, terminate]
    split_ifs with hcontrolled hstage
    · exact .idle rfl
    · exact .queues hcontrolled hstage
    · exact .idle rfl
  | release => exact .releases
  | take =>
    simp only [step, receive]
    split_ifs with hwaiting hqueue hterminated hcontrolled
    · exact .takes hwaiting.1 hqueue hterminated
    · exact .kills hwaiting.1 hqueue (by simpa using hterminated)
    · exact .idle rfl
    · exact .stopsListening (by simpa using hcontrolled) (by omega)
    · exact .idle rfl
  | observe =>
    simp only [step]
    split
    · exact .observes ‹_› ‹_›
    · exact .idle rfl
  | waitFails =>
    simp only [step]
    split_ifs with hstage
    · exact .loses hstage
    · exact .idle rfl
  | report =>
    simp only [step]
    split
    · exact .reports ‹_›
    · exact .idle rfl
  | stop =>
    simp only [step]
    split_ifs with hstage
    · exact .stops hstage
    · exact .idle rfl

/-! ### Histories -/

/-- The supervisor after everything that has happened. -/
def after (events : List Event) : Supervisor := start.run events

/-- Some step on the way is of a kind. -/
def Happens (P : Supervisor → Event → Prop) (events : List Event) : Prop :=
  ∃ before e rest, events = before ++ e :: rest ∧ P (after before) e

/-- The first event is a step, and the others go on from there. -/
theorem run_cons (s : Supervisor) (e : Event) (rest : List Event) :
    s.run (e :: rest) = (s.step e).run rest := rfl

/-- A history goes on from what has happened. -/
theorem after_append (before rest : List Event) :
    after (before ++ rest) = (after before).run rest := List.foldl_append

/-- The last event is a step from what the others have left. -/
theorem after_concat (events : List Event) (e : Event) :
    after (events ++ [e]) = (after events).step e := after_append events [e]

/-- What every step preserves holds of every run. -/
theorem run_of_transition {P : Supervisor → Prop}
    (hP : ∀ {s e s'}, Transition s e s' → P s → P s') (rest : List Event) (h : P s) :
    P (s.run rest) := by
  induction rest generalizing s with
  | nil => exact h
  | cons e rest ih => exact ih (hP (transition s e) h)

section Happens

variable {P : Supervisor → Event → Prop}

/-- Nothing has happened at the start. -/
theorem not_happens_nil : ¬ Happens P [] := by
  rintro ⟨before, e, rest, h, -⟩
  simp at h

/-- What has happened with one event more. -/
theorem happens_concat : Happens P (events ++ [e]) ↔ Happens P events ∨ P (after events) e := by
  constructor
  · rintro ⟨before, f, rest, heq, hP⟩
    rcases List.eq_nil_or_concat rest with rfl | ⟨rest, last, rfl⟩
    · obtain ⟨rfl, hlast⟩ := List.append_inj' heq rfl
      obtain rfl : e = f := by simpa using hlast
      exact .inr hP
    · have hsplit : events ++ [e] = (before ++ f :: rest) ++ [last] := by simpa using heq
      exact .inl ⟨before, f, rest, (List.append_inj' hsplit rfl).1, hP⟩
  · rintro (⟨before, f, rest, rfl, hP⟩ | hP)
    · exact ⟨before, f, rest ++ [e], by simp, hP⟩
    · exact ⟨events, e, [], rfl, hP⟩

end Happens

/-! ### Requests -/

/-- A step that takes a request from the queue. -/
def Takes (s : Supervisor) (e : Event) : Prop := (s.step e).queue < s.queue

/-- Only a waiting supervisor takes requests. -/
theorem Transition.waiting_of_lt (h : Transition s e s') (hqueue : s'.queue < s.queue) :
    e = .take ∧ s.stage = .waiting := by
  cases h with
  | kills stage _ _ => exact ⟨rfl, stage⟩
  | takes stage _ _ => exact ⟨rfl, stage⟩
  | queues _ _ =>
    have hmore : s.queue + 1 < s.queue := hqueue
    omega
  | _ => exact absurd hqueue (Nat.lt_irrefl _)

/-- A request is taken just when a supervisor that waits and listens turns to its queue and one is in it. -/
theorem takes_iff :
    Takes s e ↔ e = .take ∧ s.stage = .waiting ∧ s.listening = true ∧ 0 < s.queue := by
  constructor
  · intro h
    have hqueue : 0 < s.queue := Nat.lt_of_le_of_lt (Nat.zero_le _) h
    obtain ⟨rfl, hwaiting⟩ := (transition s e).waiting_of_lt h
    refine ⟨rfl, hwaiting, ?_, hqueue⟩
    by_contra hdeaf
    have hstep : s.step .take = s := if_neg fun hready => hdeaf hready.2
    rw [Takes, hstep] at h
    exact Nat.lt_irrefl _ h
  · rintro ⟨rfl, hwaiting, hlistening, hqueue⟩
    have hstep : s.step .take = s.receive := if_pos ⟨hwaiting, hlistening⟩
    have hless : s.receive.queue = s.queue - 1 := by
      rw [receive, if_pos hqueue]
      split_ifs <;> rfl
    rw [Takes, hstep, hless]
    omega

/-- The first request that is taken kills the child. Later ones are taken and do nothing to it. -/
theorem kills_of_takes (h : Takes s e) :
    (s.step e).terminated = true ∧
      (s.step e).kills = if s.terminated = true then s.kills else s.kills + 1 := by
  obtain ⟨rfl, hwaiting, hlistening, hqueue⟩ := takes_iff.mp h
  have hstep : s.step .take = s.receive := if_pos ⟨hwaiting, hlistening⟩
  rw [hstep, receive, if_pos hqueue]
  by_cases hagain : s.terminated = true
  · rw [if_pos hagain, if_pos hagain]
    exact ⟨hagain, rfl⟩
  · rw [if_neg hagain, if_neg hagain]
    exact ⟨rfl, rfl⟩

/-- A request is remembered when it is taken. -/
theorem Transition.terminated_iff (h : Transition s e s') :
    s'.terminated = true ↔ s.terminated = true ∨ s'.queue < s.queue := by
  cases h with
  | queues _ _ =>
    have hmore : ¬ s.queue + 1 < s.queue := by omega
    simp [hmore]
  | kills _ queue _ =>
    have hless : s.queue - 1 < s.queue := by omega
    simp [hless]
  | takes _ _ again => simp [again]
  | _ => simp

/-- The child is killed when a request is taken for the first time. -/
theorem Transition.first_of_kills (h : Transition s e s') (hkills : s'.kills ≠ s.kills) :
    s'.queue < s.queue ∧ s.terminated = false := by
  cases h with
  | kills _ queue first =>
    have hless : s.queue - 1 < s.queue := by omega
    exact ⟨hless, first⟩
  | _ => exact absurd rfl hkills

/-- Only a request makes the queue longer, and only by one. -/
theorem Transition.queue_le (h : Transition s e s') : s'.queue ≤ s.queue + [e].count .request := by
  cases h with
  | idle _ => exact Nat.le_add_right ..
  | _ => simp

/-- Termination is recorded just if a request has been taken at some point of the history. -/
theorem terminated_iff (events : List Event) :
    (after events).terminated = true ↔ Happens Takes events := by
  induction events using List.reverseRecOn with
  | nil => exact iff_of_false (by decide) not_happens_nil
  | append_singleton events e ih =>
    rw [after_concat, (transition (after events) e).terminated_iff, happens_concat, ih]
    rfl

/-- No more requests wait than have been made. -/
theorem queue_le_count (events : List Event) : (after events).queue ≤ events.count .request := by
  induction events using List.reverseRecOn with
  | nil => exact Nat.le_refl 0
  | append_singleton events e ih =>
    have hstep := (transition (after events) e).queue_le
    rw [after_concat, List.count_append]
    omega

/-- Nobody takes a request that nobody has made. -/
theorem request_mem_of_takes (h : Takes (after events) e) : .request ∈ events := by
  have hqueue : 0 < (after events).queue := by
    unfold Takes at h
    omega
  have hcount := queue_le_count events
  exact List.count_pos_iff.1 (by omega)

/-- Nobody can make requests any more, and none is left. -/
structure Released (s : Supervisor) : Prop where
  controlled : s.controlled = false
  queue : s.queue = 0

/-- A supervisor that nobody can ask any more stays one. -/
theorem Transition.released (h : Transition s e s') (hs : Released s) : Released s' := by
  obtain ⟨hcontrolled, hqueue⟩ := hs
  cases h with
  | queues controlled _ => simp [hcontrolled] at controlled
  | kills _ queue _ => omega
  | takes _ queue _ => omega
  | releases => exact ⟨rfl, hqueue⟩
  | _ => exact ⟨hcontrolled, hqueue⟩

/-- A step of such a supervisor neither kills the child nor records a termination. -/
theorem Transition.untouched (h : Transition s e s') (hs : Released s) :
    s'.kills = s.kills ∧ s'.terminated = s.terminated := by
  have hqueue := hs.queue
  cases h with
  | kills _ queue _ => omega
  | _ => exact ⟨rfl, rfl⟩

/-- Without requests nothing more is done to the child. -/
theorem run_of_released (hs : Released s) (rest : List Event) :
    (s.run rest).kills = s.kills ∧ (s.run rest).terminated = s.terminated := by
  induction rest generalizing s with
  | nil => exact ⟨rfl, rfl⟩
  | cons e rest ih =>
    have hstep := (transition s e).untouched hs
    have hrest := ih ((transition s e).released hs)
    exact ⟨hrest.1.trans hstep.1, hrest.2.trans hstep.2⟩

/-- A supervisor stops listening only when there will be nothing to hear. -/
theorem released_of_deaf (events : List Event) (h : (after events).listening = false) :
    Released (after events) := by
  refine run_of_transition (P := fun s => s.listening = false → Released s) ?_ events nofun h
  intro s e s' htransition hreleased hdeaf
  have hnext : Released s → Released s' := htransition.released
  cases htransition with
  | stopsListening controlled queue => exact ⟨controlled, queue⟩
  | _ => exact hnext (hreleased hdeaf)

/-! ### Reports -/

/-- What the fields of every reachable state have to do with each other. -/
structure Consistent (s : Supervisor) : Prop where
  kills : s.kills = if s.terminated then 1 else 0
  reports : s.reports ≠ [] ↔ s.stage = .reported ∨ s.stage = .stopped

/-- Every step keeps the fields in keeping with each other. -/
theorem Transition.consistent (h : Transition s e s') (hs : Consistent s) : Consistent s' := by
  obtain ⟨hkills, hreports⟩ := hs
  cases h with
  | kills stage _ first => exact ⟨by simp [hkills, first], hreports⟩
  | observes stage _ => exact ⟨hkills, by simpa [stage] using hreports⟩
  | loses stage => exact ⟨hkills, by simpa [stage] using hreports⟩
  | reports stage => exact ⟨hkills, by simp⟩
  | stops stage => exact ⟨hkills, by simpa [stage] using hreports⟩
  | _ => exact ⟨hkills, hreports⟩

/-- So they are in every reachable state. -/
theorem consistent (events : List Event) : Consistent (after events) :=
  run_of_transition Transition.consistent events ⟨rfl, by decide⟩

/-- A supervisor that waits for its child has reported nothing. -/
theorem Consistent.reports_eq_nil (h : Consistent s) (hwaiting : s.stage = .waiting) :
    s.reports = [] := by
  by_contra hsome
  have hstage := h.reports.1 hsome
  simp [hwaiting] at hstage

/-- A step in which a waiting supervisor learns that the child has ended, and with which code. -/
def Learns (code : Option Int) (s : Supervisor) (e : Event) : Prop :=
  s.stage = .waiting ∧ (s.step e).stage = .draining code

/-- The code is that of the way in which the child has ended, unless waiting for it fails. -/
theorem Transition.code_cases (h : Transition s e s') (hwaiting : s.stage = .waiting)
    (hstage : s'.stage = .draining code) :
    (e = .observe ∧ ∃ status, s.ended = some status ∧ code = some status.code) ∨
      (e = .waitFails ∧ code = none) := by
  cases h with
  | observes stage ended =>
    left
    exact ⟨rfl, _, ended, by simpa using hstage.symm⟩
  | loses stage =>
    right
    exact ⟨rfl, by simpa using hstage.symm⟩
  | _ => simp [hwaiting] at hstage

/-- The step that learns of the end does not report it yet. -/
theorem Transition.reports_of_waiting (h : Transition s e s') (hwaiting : s.stage = .waiting) :
    s'.reports = s.reports := by
  cases h with
  | reports stage => simp [hwaiting] at stage
  | _ => rfl

/-- A step to the time between learning and reporting, or in it, records no termination. -/
theorem Transition.terminated_of_draining (h : Transition s e s')
    (hstage : s'.stage = .draining code) : s'.terminated = s.terminated := by
  cases h with
  | kills stage _ _ => simp [stage] at hstage
  | _ => rfl

/-- What a step learns is not reported yet. -/
structure Drains (exit : ProcessExit) (s : Supervisor) : Prop where
  stage : s.stage = .draining exit.code
  terminated : s.terminated = exit.terminated
  reports : s.reports = []

/-- What has been learnt is kept with whether a request had been taken by then. -/
theorem drains_of_learns (h : Learns code s e) (hs : Consistent s) :
    Drains ⟨code, s.terminated⟩ (s.step e) := by
  have hreports := (transition s e).reports_of_waiting h.1
  have hterminated := (transition s e).terminated_of_draining h.2
  exact ⟨h.2, hterminated, hreports.trans (hs.reports_eq_nil h.1)⟩

/-- Nothing but reporting ends the time in between. -/
theorem Transition.drains (h : Transition s e s') (he : e ≠ .report) (hs : Drains exit s) :
    Drains exit s' := by
  obtain ⟨hstage, hterminated, hreports⟩ := hs
  cases h with
  | kills stage _ _ => simp [hstage] at stage
  | observes stage _ => simp [hstage] at stage
  | loses stage => simp [hstage] at stage
  | reports _ => exact absurd rfl he
  | stops stage => simp [hstage] at stage
  | _ => exact ⟨hstage, hterminated, hreports⟩

/-- The end has been reported. -/
structure HasReported (exit : ProcessExit) (s : Supervisor) : Prop where
  stage : s.stage = .reported ∨ s.stage = .stopped
  reports : s.reports = [exit]

/-- Reporting tells the end as it has been kept. -/
theorem Drains.report (h : Drains exit s) : HasReported exit (s.step .report) := by
  obtain ⟨hstage, hterminated, hreports⟩ := h
  constructor <;> simp [step, hstage, hterminated, hreports]

/-- Once the end has been reported, no step reports anything more. -/
theorem Transition.hasReported (h : Transition s e s') (hs : HasReported exit s) :
    HasReported exit s' := by
  obtain ⟨hstage, hreports⟩ := hs
  cases h with
  | observes stage _ => simp [stage] at hstage
  | loses stage => simp [stage] at hstage
  | reports stage => simp [stage] at hstage
  | stops _ => exact ⟨.inr rfl, hreports⟩
  | _ => exact ⟨hstage, hreports⟩

/-- What a run reports from the end of the child on. -/
theorem Drains.reports_run (h : Drains exit s) (rest : List Event) :
    (s.run rest).reports = if .report ∈ rest then [exit] else [] := by
  induction rest generalizing s with
  | nil => exact h.reports
  | cons e rest ih =>
    by_cases he : e = .report
    · subst he
      have hreported := run_of_transition Transition.hasReported rest h.report
      simpa [run_cons] using hreported.reports
    · have hrest := ih ((transition s e).drains he h)
      simpa [run_cons, Ne.symm he] using hrest

/-- What is reported is fixed in the step that learns of the end. -/
theorem reports_of_learns (h : Learns code (after before) e) (rest : List Event) :
    (after (before ++ e :: rest)).reports =
      if .report ∈ rest then [⟨code, (after before).terminated⟩] else [] := by
  rw [after_append]
  exact (drains_of_learns h (consistent before)).reports_run rest

/-- A supervisor waits on until it learns of the end. -/
theorem Transition.stage_of_waiting (h : Transition s e s') (hwaiting : s.stage = .waiting) :
    s'.stage = .waiting ∨ ∃ code, s'.stage = .draining code := by
  cases h with
  | observes _ _ => exact .inr ⟨_, rfl⟩
  | loses _ => exact .inr ⟨_, rfl⟩
  | reports stage => simp [hwaiting] at stage
  | stops stage => simp [hwaiting] at stage
  | _ => exact .inl hwaiting

/-- A supervisor that does not wait any more has learnt of the end of its child. -/
theorem waiting_or_learns (events : List Event) :
    (after events).stage = .waiting ∨ ∃ code, Happens (Learns code) events := by
  induction events using List.reverseRecOn with
  | nil => exact .inl rfl
  | append_singleton events e ih =>
    rw [after_concat]
    rcases ih with hwaiting | ⟨code, h⟩
    · rcases (transition (after events) e).stage_of_waiting hwaiting with hstill | ⟨code, hcode⟩
      · exact .inl hstill
      · exact .inr ⟨code, happens_concat.2 (.inr ⟨hwaiting, hcode⟩)⟩
    · exact .inr ⟨code, happens_concat.2 (.inl h)⟩

/-- The child ends with its first status, and no later one counts. -/
theorem Transition.ended (h : Transition s e s') : s'.ended = s.ended.or e.status? := by
  cases h with
  | idle hnone => simp [hnone]
  | _ => simp [Event.status?]

/-- The child ends once, the first time. -/
theorem ended_eq (events : List Event) :
    (after events).ended = events.findSome? Event.status? := by
  induction events using List.reverseRecOn with
  | nil => rfl
  | append_singleton events e ih =>
    rw [after_concat, (transition (after events) e).ended, ih, List.findSome?_append]
    simp

/-- Once the child has ended, whoever looks for its end finds it. -/
theorem learns_of_observe (hended : (after before).ended ≠ none) :
    ∃ code, Happens (Learns code) (before ++ [.observe]) := by
  rcases waiting_or_learns before with hwaiting | ⟨code, h⟩
  · obtain ⟨status, hstatus⟩ := Option.ne_none_iff_exists'.1 hended
    have hlearns : Learns (some status.code) (after before) .observe := by
      constructor
      · exact hwaiting
      · simp [step, hwaiting, hstatus]
    exact ⟨_, happens_concat.2 (.inr hlearns)⟩
  · exact ⟨code, happens_concat.2 (.inl h)⟩

/-- A child that ends, whose end is then observed and then reported, is reported once. -/
theorem reports_length_of_sublist {status : WaitStatus}
    (h : List.Sublist [.childEnds status, .observe, .report] events) :
    (after events).reports.length = 1 := by
  obtain ⟨first, second, rfl, hends, h⟩ := List.cons_sublist_iff.1 h
  obtain ⟨second, third, rfl, hobserve, h⟩ := List.cons_sublist_iff.1 h
  have hreport : .report ∈ third := List.singleton_sublist.1 h
  obtain ⟨second, between, rfl⟩ := List.append_of_mem hobserve
  have hended : (after (first ++ second)).ended ≠ none := by
    rw [ended_eq, List.findSome?_append]
    have hsome : (first.findSome? Event.status?).isSome :=
      List.findSome?_isSome_iff.2 ⟨_, hends, rfl⟩
    cases hfirst : first.findSome? Event.status? with
    | none => simp [hfirst] at hsome
    | some status => simp
  obtain ⟨code, before, e, rest, hsplit, hlearns⟩ := learns_of_observe hended
  have hall : first ++ (second ++ .observe :: between ++ third) =
      before ++ e :: (rest ++ (between ++ third)) := by
    calc first ++ (second ++ .observe :: between ++ third)
        = (first ++ second ++ [.observe]) ++ (between ++ third) := by simp
      _ = before ++ e :: (rest ++ (between ++ third)) := by simp [hsplit]
  rw [hall, reports_of_learns hlearns, if_pos (by simp [hreport])]
  rfl

/-- Nothing but going away makes a supervisor gone. -/
theorem Transition.stopped_iff (h : Transition s e s') (he : e ≠ .stop) :
    s'.stage = .stopped ↔ s.stage = .stopped := by
  cases h with
  | observes stage _ => simp [stage]
  | loses stage => simp [stage]
  | reports stage => simp [stage]
  | stops _ => exact absurd rfl he
  | _ => rfl

/-- A supervisor goes away after it has reported. -/
theorem stopped_step (s : Supervisor) (e : Event) :
    (s.step e).stage = .stopped ↔ s.stage = .stopped ∨ e = .stop ∧ s.stage = .reported := by
  by_cases he : e = .stop
  · subst he
    simp only [step]
    split_ifs with hstage <;> simp [hstage]
  · rw [(transition s e).stopped_iff he]
    simp [he]

/-- A supervisor is gone just if it went away after it had reported. -/
theorem stopped_iff (events : List Event) :
    (after events).stage = .stopped ↔
      Happens (fun s e => e = .stop ∧ s.reports ≠ []) events := by
  induction events using List.reverseRecOn with
  | nil => exact iff_of_false (by decide) not_happens_nil
  | append_singleton events e ih =>
    rw [after_concat, stopped_step, happens_concat, ← ih, (consistent events).reports]
    constructor
    · rintro (hstopped | ⟨rfl, hreported⟩)
      · exact .inl hstopped
      · exact .inr ⟨rfl, .inl hreported⟩
    · rintro (hstopped | ⟨rfl, hreported | hstopped⟩)
      · exact .inl hstopped
      · exact .inr ⟨rfl, hreported⟩
      · exact .inl hstopped

/-! ### Every order of events -/

/-- What holds of a supervisor after events in whatever order. -/
structure OneKillOneReport (events : List Event) : Prop where
  /-- The child is killed once if a request has been taken, and never otherwise. -/
  kills : (after events).kills = 1 ∧ Happens Takes events ∨
    (after events).kills = 0 ∧ ¬ Happens Takes events
  /-- It is killed in the step that takes the first request. -/
  kills_first : ∀ before e rest, events = before ++ e :: rest →
    (after (before ++ [e])).kills ≠ (after before).kills →
    Takes (after before) e ∧ ¬ Happens Takes before
  /-- A supervisor that waits for the child takes a request when it turns to them and one is queued. -/
  takes_iff : ∀ before e rest, events = before ++ e :: rest →
    (Takes (after before) e ↔
      e = .take ∧ (after before).stage = .waiting ∧ 0 < (after before).queue)
  /-- The first one that it takes kills the child. -/
  first_kills : ∀ before e rest, events = before ++ e :: rest → Takes (after before) e →
    ¬ Happens Takes before → (after before).kills = 0 ∧ (after (before ++ [e])).kills = 1
  /-- Only a request that has been made is taken, and only while the supervisor waits for the child. -/
  takes : ∀ before e rest, events = before ++ e :: rest → Takes (after before) e →
    e = .take ∧ .request ∈ before ∧ (after before).stage = .waiting
  /-- There is one report at most. -/
  reports_le_one : (after events).reports.length ≤ 1
  /-- It comes after a step that learns of the end, and says whether a request was taken before. -/
  mem_reports : ∀ exit, exit ∈ (after events).reports ↔
    ∃ before e rest, events = before ++ e :: rest ∧ Learns exit.code (after before) e ∧
      (exit.terminated = true ↔ Happens Takes before) ∧ .report ∈ rest
  /-- The code is that of the first end of the child, unless waiting for it fails. -/
  code : ∀ before e rest code, events = before ++ e :: rest → Learns code (after before) e →
    (e = .observe ∧ ∃ status, before.findSome? Event.status? = some status ∧
      code = some status.code) ∨ (e = .waitFails ∧ code = none)
  /-- There is one report at least once the child has ended and the supervisor has acted on it. -/
  reports_eq_one : ∀ status, List.Sublist [.childEnds status, .observe, .report] events →
    (after events).reports.length = 1
  /-- That nobody can make requests any more does nothing to the child. -/
  released : ∀ before rest, events = before ++ .release :: rest → (after before).queue = 0 →
    (after events).kills = (after before).kills ∧
      (after events).terminated = (after before).terminated
  /-- Requests after the end has been learnt leave the report as it is. -/
  late : ∀ before e rest code, events = before ++ e :: rest → Learns code (after before) e →
    (after events).reports = (after (before ++ e :: rest.filter (· ≠ .request))).reports
  /-- Requests are refused exactly once the supervisor has gone, which it does after reporting. -/
  refused : (after events).terminate = .error refusal ↔
    Happens (fun s e => e = .stop ∧ s.reports ≠ []) events

/-- An exit is reported just if it was learnt at some point with its code, with a request taken before
that just if it says so, and reporting came later. -/
theorem mem_reports_iff :
    exit ∈ (after events).reports ↔
      ∃ before e rest, events = before ++ e :: rest ∧ Learns exit.code (after before) e ∧
        (exit.terminated = true ↔ Happens Takes before) ∧ .report ∈ rest := by
  constructor
  · intro hexit
    rcases waiting_or_learns events with hwaiting | ⟨code, before, e, rest, rfl, hlearns⟩
    · have hnone := (consistent events).reports_eq_nil hwaiting
      simp [hnone] at hexit
    · rw [reports_of_learns hlearns] at hexit
      by_cases hreport : .report ∈ rest
      · rw [if_pos hreport, List.mem_singleton] at hexit
        subst hexit
        exact ⟨before, e, rest, rfl, hlearns, terminated_iff before, hreport⟩
      · simp [hreport] at hexit
  · rintro ⟨before, e, rest, rfl, hlearns, hterminated, hreport⟩
    have hsame : exit.terminated = (after before).terminated :=
      Bool.eq_iff_iff.2 (hterminated.trans (terminated_iff before).symm)
    rw [reports_of_learns hlearns, if_pos hreport, ← hsame]
    exact List.mem_singleton_self _

/-- There is at most one report. -/
theorem reports_length_le (events : List Event) : (after events).reports.length ≤ 1 := by
  rcases waiting_or_learns events with hwaiting | ⟨code, before, e, rest, rfl, hlearns⟩
  · have hnone := (consistent events).reports_eq_nil hwaiting
    simp [hnone]
  · rw [reports_of_learns hlearns]
    split_ifs <;> simp

/-- Whatever happens, the child is killed once at most and its end reported once. -/
theorem oneKillOneReport (events : List Event) : OneKillOneReport events where
  kills := by
    have hkills := (consistent events).kills
    have hterminated := terminated_iff events
    by_cases h : Happens Takes events
    · exact .inl ⟨by simpa [hterminated.2 h] using hkills, h⟩
    · have hnot : (after events).terminated = false := by simpa [h] using hterminated
      exact .inr ⟨by simpa [hnot] using hkills, h⟩
  kills_first := by
    intro before e rest _ hkills
    rw [after_concat] at hkills
    obtain ⟨htakes, hfirst⟩ := (transition (after before) e).first_of_kills hkills
    exact ⟨htakes, by simp [← terminated_iff, hfirst]⟩
  takes_iff := by
    intro before e rest _
    rw [Supervisor.takes_iff]
    refine ⟨fun ⟨he, hwaiting, _, hqueue⟩ => ⟨he, hwaiting, hqueue⟩, ?_⟩
    rintro ⟨he, hwaiting, hqueue⟩
    refine ⟨he, hwaiting, ?_, hqueue⟩
    by_contra hdeaf
    have hreleased := released_of_deaf before (by simpa using hdeaf)
    have hnone := hreleased.queue
    omega
  first_kills := by
    intro before e rest _ htakes hfirst
    rw [← terminated_iff] at hfirst
    have hkills := (consistent before).kills
    rw [if_neg hfirst] at hkills
    have hstep := (kills_of_takes htakes).2
    rw [if_neg hfirst, hkills] at hstep
    rw [after_concat]
    exact ⟨hkills, hstep⟩
  takes := by
    intro before e rest _ htakes
    obtain ⟨rfl, hwaiting⟩ := (transition (after before) e).waiting_of_lt htakes
    exact ⟨rfl, request_mem_of_takes htakes, hwaiting⟩
  reports_le_one := reports_length_le events
  mem_reports _ := mem_reports_iff
  code := by
    intro before e rest code _ hlearns
    rw [← ended_eq]
    exact (transition (after before) e).code_cases hlearns.1 hlearns.2
  reports_eq_one _ := reports_length_of_sublist
  released := by
    rintro before rest rfl hqueue
    have hreleased : Released ((after before).step .release) := ⟨rfl, hqueue⟩
    rw [after_append, run_cons]
    exact run_of_released hreleased rest
  late := by
    rintro before e rest code rfl hlearns
    rw [reports_of_learns hlearns, reports_of_learns hlearns]
    simp
  refused := by
    rw [← stopped_iff, terminate]
    split_ifs with hstage <;> simp [hstage]

/-- A request is made, the child ends by itself, the request is taken before anybody looks, and another
one comes after the end has been observed. -/
def overtaken : List Event :=
  [.request, .childEnds (.exited 12), .take, .observe, .request, .report, .stop]

/-- The first request still counts and is the only one that is taken; the late one is left in the queue. -/
theorem overtaken_reported :
    Happens Takes overtaken ∧ (after overtaken).kills = 1 ∧
      (after overtaken).reports = [⟨some 12, true⟩] ∧ (after overtaken).queue = 1 ∧
      (after overtaken).terminate = .error refusal := by
  have h := oneKillOneReport overtaken
  have htakes : Takes (after [.request, .childEnds (.exited 12)]) .take :=
    (h.takes_iff _ _ [.observe, .request, .report, .stop] rfl).mpr (by decide)
  have hhappens : Happens Takes overtaken := ⟨_, _, _, rfl, htakes⟩
  have hgone : Happens (fun s e => e = .stop ∧ s.reports ≠ []) overtaken :=
    ⟨[.request, .childEnds (.exited 12), .take, .observe, .request, .report], .stop, [], rfl, rfl,
      by decide⟩
  refine ⟨hhappens, ?_, by decide, by decide, h.refused.mpr hgone⟩
  rcases h.kills with ⟨hkills, -⟩ | ⟨-, hnever⟩
  · exact hkills
  · exact absurd hhappens hnever

end ModelCheck.Supervisor
