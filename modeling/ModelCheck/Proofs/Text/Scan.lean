import Mathlib.Data.List.Basic
import ModelCheck.Text.Scan

/-!
# What matchers find

A literal and a run of characters divide a text in one way only. Where a run must be followed by a
character of another kind, it is the longest one that counts, so nothing is gained by trying the shorter
ones; and where characters are passed over, the first place with which all the rest fits is found.
-/

namespace ModelCheck.Text

/-! ### Literals and runs -/

/-- What follows a literal is the text without it. -/
theorem after?_eq_some_iff {literal s rest : List Char} :
    after? literal s = some rest ↔ s = literal ++ rest := by
  induction literal generalizing s with
  | nil => simp [after?]
  | cons a literal ih =>
    cases s with
    | nil => simp [after?]
    | cons c s =>
      by_cases hc : a = c
      · simp [after?, hc, ih]
      · simp [after?, hc, Ne.symm hc]

/-- A literal is read where a text begins with it. -/
theorem after?_append (literal s : List Char) : after? literal (literal ++ s) = some s :=
  after?_eq_some_iff.mpr rfl

/-- A text that goes on in another way does not begin with the literal. -/
theorem after?_cons_of_ne {a c : Char} (h : a ≠ c) (literal s : List Char) :
    after? (a :: literal) (c :: s) = none := if_neg h

/-- A nonempty text of characters of one kind. -/
def IsRun (p : Char → Bool) (s : List Char) : Prop := s ≠ [] ∧ ∀ c ∈ s, p c = true

instance (p : Char → Bool) (s : List Char) : Decidable (IsRun p s) :=
  decidable_of_iff (s ≠ [] ∧ s.all p = true) (and_congr_right fun _ => List.all_eq_true)

/-- Text on one line without characters of one kind. -/
def IsGap (p : Char → Bool) (gap : List Char) : Prop := ∀ c ∈ gap, p c = false ∧ c ≠ '\n'

instance (p : Char → Bool) (gap : List Char) : Decidable (IsGap p gap) :=
  List.decidableBAll _ gap

/-- Whether a text goes on with characters of another kind, or not at all. -/
def Ends (p : Char → Bool) (rest : List Char) : Prop := ∀ c ∈ rest.head?, p c = false

variable {α : Type} {p : Char → Bool}

/-- A character of another kind ends a run. -/
theorem ends_cons {c : Char} (h : p c = false) (rest : List Char) : Ends p (c :: rest) := by
  intro d hd
  obtain rfl : c = d := by simpa using hd
  exact h

instance (p : Char → Bool) : (rest : List Char) → Decidable (Ends p rest)
  | [] => isTrue nofun
  | c :: rest => decidable_of_iff (p c = false) ⟨fun h => ends_cons h rest, fun h => h c rfl⟩

/-- Gaps may be put together. -/
theorem IsGap.append {first second : List Char} (h : IsGap p first) (h' : IsGap p second) :
    IsGap p (first ++ second) := fun c hc => (List.mem_append.mp hc).elim (h c) (h' c)

/-- A character may stand in front of a gap if it may stand in one. -/
theorem IsGap.cons {c : Char} (hc : p c = false ∧ c ≠ '\n') {gap : List Char} (h : IsGap p gap) :
    IsGap p (c :: gap) := List.forall_mem_cons.mpr ⟨hc, h⟩

/-- What a run leaves goes on with another kind of character. -/
theorem ends_dropWhile (p : Char → Bool) (s : List Char) : Ends p (s.dropWhile p) := by
  intro c hc
  have hnot := List.head?_dropWhile_not p s
  rw [Option.mem_def.mp hc] at hnot
  simpa using hnot

/-- A text is divided at the end of its longest run in one way. -/
theorem run?_eq_some_iff {s front rest : List Char} :
    run? p s = some (front, rest) ↔ s = front ++ rest ∧ IsRun p front ∧ Ends p rest := by
  constructor
  · intro h
    simp only [run?] at h
    split at h
    · cases h
    · next hfront =>
      obtain ⟨rfl, rfl⟩ : s.takeWhile p = front ∧ s.dropWhile p = rest := by simpa using h
      refine ⟨List.takeWhile_append_dropWhile.symm, ⟨by simpa using hfront, fun c hc => ?_⟩,
        ends_dropWhile p s⟩
      exact List.all_eq_true.mp List.all_takeWhile c hc
  · rintro ⟨rfl, ⟨hfront, hp⟩, hrest⟩
    have hnone : rest.takeWhile p = [] := by
      cases rest with
      | nil => rfl
      | cons c rest => simp [hrest c rfl]
    have hall : rest.dropWhile p = rest := by
      cases rest with
      | nil => rfl
      | cons c rest => simp [hrest c rfl]
    have htake : (front ++ rest).takeWhile p = front := by
      rw [List.takeWhile_append_of_pos hp, hnone, List.append_nil]
    have hdrop : (front ++ rest).dropWhile p = rest := by
      rw [List.dropWhile_append_of_pos hp, hall]
    simp only [run?, htake, hdrop, List.isEmpty_iff, if_neg hfront]

/-- A run goes up to the first character that does not belong to it. -/
theorem run?_append {s : List Char} (hs : s ≠ []) (hp : ∀ c ∈ s, p c = true)
    {c : Char} (hc : p c = false) (rest : List Char) :
    run? p (s ++ c :: rest) = some (s, c :: rest) :=
  run?_eq_some_iff.mpr ⟨rfl, ⟨hs, hp⟩, ends_cons hc rest⟩

/-- Where no character of the kind stands there is no run. -/
theorem run?_of_ends {s : List Char} (h : Ends p s) : run? p s = none := by
  refine Option.eq_none_iff_forall_not_mem.mpr fun found hfound => ?_
  obtain ⟨rfl, ⟨hne, hp⟩, -⟩ := run?_eq_some_iff.mp hfound
  obtain ⟨c, front, hfront⟩ := List.exists_cons_of_ne_nil hne
  have hc : p c = true := hp c (by simp [hfront])
  have hnot : p c = false := h c (by simp [hfront])
  simp [hc] at hnot

/-! ### Runs that may be shorter -/

/-- Reads a run of characters of one kind with a literal behind it, and goes on. -/
def runThen? (p : Char → Bool) (literal : List Char) (next : List Char → List Char → Option α)
    (s : List Char) : Option α :=
  (run? p s).bind fun r => (after? literal r.2).bind (next r.1)

/-- A run with the literal behind it is read as a whole if the literal ends it. -/
theorem runThen?_append {s literal : List Char} (hs : IsRun p s) (hliteral : Ends p literal)
    (hne : literal ≠ []) (next : List Char → List Char → Option α) (rest : List Char) :
    runThen? p literal next (s ++ literal ++ rest) = next s rest := by
  obtain ⟨c, more, rfl⟩ := List.exists_cons_of_ne_nil hne
  have hrun : run? p (s ++ (c :: more) ++ rest) = some (s, (c :: more) ++ rest) := by
    rw [List.append_assoc]
    exact run?_append hs.1 hs.2 (hliteral c rfl) (more ++ rest)
  rw [runThen?, hrun, Option.bind_some, after?_append, Option.bind_some]

/-- Without a run there is nothing to go on from. -/
theorem runThen?_of_ends {s : List Char} (h : Ends p s) (literal : List Char)
    (next : List Char → List Char → Option α) : runThen? p literal next s = none := by
  rw [runThen?, run?_of_ends h]
  rfl

/-- A run in front of something else than the literal is none of those that are sought. -/
theorem runThen?_of_after {s literal : List Char} (hs : IsRun p s) {c : Char} (hc : p c = false)
    {rest : List Char} (h : after? literal (c :: rest) = none)
    (next : List Char → List Char → Option α) :
    runThen? p literal next (s ++ c :: rest) = none := by
  rw [runThen?, run?_append hs.1 hs.2 hc, Option.bind_some, h]
  rfl

/-- Where the literal behind a run begins with a character of another kind, only the longest run can
have it behind it. -/
theorem findSome?_runs {literal : List Char} (hliteral : Ends p literal) (hne : literal ≠ [])
    (next : List Char → List Char → Option α) (s : List Char) :
    (runs p s).findSome? (fun r => (after? literal r.2).bind (next r.1)) =
      runThen? p literal next s := by
  obtain ⟨a, more, rfl⟩ := List.exists_cons_of_ne_nil hne
  have ha : p a = false := hliteral a rfl
  induction s generalizing next with
  | nil => rfl
  | cons c s ih =>
    by_cases hc : p c = true
    · have hshorter := ih fun front => next (c :: front)
      rw [runs, if_pos hc, List.findSome?_append, List.findSome?_map]
      change ((runs p s).findSome? fun r =>
        (after? (a :: more) r.2).bind (next (c :: r.1))).or _ = _
      rw [hshorter]
      cases s with
      | nil => simp [runThen?, run?, hc]
      | cons d s =>
        by_cases hd : p d = true
        · -- a run of one character stands in front of one of its kind, which begins no literal
          have hne : a ≠ d := by
            rintro rfl
            simp [hd] at ha
          simp [runThen?, run?, hc, hd, after?_cons_of_ne hne]
        · simp [runThen?, run?, hc, hd]
    · have hends : Ends p (c :: s) := ends_cons (by simpa using hc) s
      rw [runs, if_neg hc, runThen?_of_ends hends]
      rfl

/-! ### Characters that are passed over -/

section Skips

variable {f : List Char → Option α} {s : List Char}

/-- Nothing is passed over where something is found at once. -/
theorem findSome?_skips_of_some {a : α} (h : f s = some a) : (skips s).findSome? f = some a := by
  cases s <;> simp [skips, h]

/-- A character at which nothing is found is passed over, unless it ends the line. -/
theorem findSome?_skips_cons {c : Char} (hc : c ≠ '\n') (h : f (c :: s) = none) :
    (skips (c :: s)).findSome? f = (skips s).findSome? f := by
  rw [skips, List.findSome?_cons, h, if_neg hc]

/-- A text without line feeds in which nothing is found is passed over. -/
theorem findSome?_skips_append {gap : List Char} (hgap : '\n' ∉ gap)
    (h : ∀ q, q ≠ [] → q <:+ gap → f (q ++ s) = none) :
    (skips (gap ++ s)).findSome? f = (skips s).findSome? f := by
  induction gap with
  | nil => rfl
  | cons c gap ih =>
    have hc : c ≠ '\n' := fun hc => hgap (hc ▸ List.mem_cons_self)
    have hrest : '\n' ∉ gap := fun hmem => hgap (List.mem_cons_of_mem c hmem)
    have hhere : f (c :: (gap ++ s)) = none := h (c :: gap) (by simp) List.suffix_rfl
    rw [List.cons_append, findSome?_skips_cons hc hhere]
    exact ih hrest fun q hq hsuffix => h q hq (hsuffix.trans (List.suffix_cons c gap))

end Skips

/-- Passes over as little as possible of a line and reads a run with a literal behind it. -/
def seek? (p : Char → Bool) (literal : List Char) (next : List Char → List Char → Option α)
    (s : List Char) : Option α :=
  (skips s).findSome? (runThen? p literal next)

section Seek

variable {literal : List Char} {next : List Char → List Char → Option α}

/-- A run that stands at the front, with the literal behind it, is the one that is sought. -/
theorem seek?_here {s rest : List Char} {a : α} (hs : IsRun p s) (hliteral : Ends p literal)
    (hne : literal ≠ []) (h : next s rest = some a) :
    seek? p literal next (s ++ literal ++ rest) = some a := by
  refine findSome?_skips_of_some ?_
  rw [runThen?_append hs hliteral hne, h]

/-- Characters of another kind are passed over. -/
theorem seek?_other {gap : List Char} (hgap : IsGap p gap) (s : List Char) :
    seek? p literal next (gap ++ s) = seek? p literal next s := by
  refine findSome?_skips_append (fun hfeed => (hgap _ hfeed).2 rfl) fun q hq hsuffix => ?_
  obtain ⟨c, tail, rfl⟩ := List.exists_cons_of_ne_nil hq
  have hc : p c = false := (hgap c (hsuffix.mem List.mem_cons_self)).1
  exact runThen?_of_ends (ends_cons hc _) literal next

/-- A run with something else behind it is passed over, the shorter runs at its end included. -/
theorem seek?_run {run : List Char} (hfeed : '\n' ∉ run) (hrun : IsRun p run) {c : Char}
    (hc : p c = false) {rest : List Char} (h : after? literal (c :: rest) = none) :
    seek? p literal next (run ++ c :: rest) = seek? p literal next (c :: rest) := by
  refine findSome?_skips_append hfeed fun q hq hsuffix => ?_
  have htail : IsRun p q := ⟨hq, fun d hd => hrun.2 d (hsuffix.mem hd)⟩
  exact runThen?_of_after htail hc h next

end Seek

/-! ### The leftmost place -/

section Leftmost

variable {f : List Char → Option α} {s : List Char}

/-- What is found leftmost in a text is found at one of its places. -/
theorem exists_of_leftmost? {a : α} (h : leftmost? f s = some a) : ∃ place, f place = some a := by
  induction s with
  | nil => exact ⟨[], h⟩
  | cons c rest ih =>
    rcases Option.or_eq_some_iff.mp h with hfound | ⟨-, hrest⟩
    · exact ⟨c :: rest, hfound⟩
    · exact ih hrest

/-- What is found at the front is the leftmost. -/
theorem leftmost?_of_some {a : α} (h : f s = some a) : leftmost? f s = some a := by
  cases s with
  | nil => exact h
  | cons c s => rw [leftmost?, h, Option.some_or]

/-- A place is the leftmost one if nothing is found at those before it. -/
theorem leftmost?_append {front : List Char} (h : ∀ q, q ≠ [] → q <:+ front → f (q ++ s) = none) :
    leftmost? f (front ++ s) = leftmost? f s := by
  induction front with
  | nil => rfl
  | cons c front ih =>
    have hhere : f (c :: (front ++ s)) = none := h (c :: front) (by simp) List.suffix_rfl
    rw [List.cons_append, leftmost?, hhere, Option.none_or]
    exact ih fun q hq hsuffix => h q hq (hsuffix.trans (List.suffix_cons c front))

end Leftmost

end ModelCheck.Text
