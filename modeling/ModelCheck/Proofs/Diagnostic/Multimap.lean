import Mathlib.Data.List.Induction
import ModelCheck.Proofs.Diagnostic.Collection

/-!
# Diagnostics as a multimap

What a collection holds is settled by what was added to it. It lists the files that were named, each
under the spelling that came first, with the diagnostics that were added under any spelling. The order
in which different files came leaves no trace.
-/

namespace ModelCheck.Collection

/-! ### Files and their entries -/

/-- In an ordered list each path occurs once, so an entry is what is found for its path. -/
theorem mem_files_iff {c : Collection} (h : Ordered c.files) (entry : Path × List Diagnostic) :
    entry ∈ c.files ↔ entry.1 ∈ keys c.files ∧ c.get? entry.1 = some entry.2 := by
  constructor
  · exact fun hentry => ⟨List.mem_map_of_mem hentry, get?_of_mem h hentry⟩
  · rintro ⟨hkey, hds⟩
    obtain ⟨listed, hlisted, hsame⟩ := List.mem_map.mp hkey
    have hfound : c.get? listed.1 = some listed.2 := get?_of_mem h hlisted
    rw [hsame, hds] at hfound
    obtain rfl : listed = entry := Prod.ext hsame (Option.some.inj hfound).symm
    exact hlisted

/-- Files in strict order are different from each other. -/
theorem Ordered.nodup {files : List (Path × List Diagnostic)} (h : Ordered files) :
    files.Nodup := by
  refine h.imp ?_
  rintro entry _ hlt rfl
  have hsame : entry.1.compare entry.1 = .eq := Path.compare_eq_iff.mpr rfl
  simp [hsame] at hlt

/-- A collection is known by the spellings of its files and by what is found of each of them. -/
theorem eq_of_keys_of_get? {c c' : Collection} (h : Ordered c.files) (h' : Ordered c'.files)
    (hkeys : ∀ key, key ∈ keys c.files ↔ key ∈ keys c'.files) (hget : ∀ q, c.get? q = c'.get? q) :
    c = c' := by
  have hperm : c.files.Perm c'.files := by
    refine (List.perm_ext_iff_of_nodup h.nodup h'.nodup).mpr fun entry => ?_
    rw [mem_files_iff h, mem_files_iff h', hkeys, hget]
  have hfiles : c.files = c'.files := by
    refine hperm.eq_of_pairwise (fun a b _ _ hab hba => ?_) h h'
    rw [Std.OrientedCmp.gt_of_lt hba] at hab
    cases hab
  cases c
  cases c'
  exact congrArg Collection.mk hfiles

/-! ### What has been added -/

/-- A collection at its start: without files, or for one file. -/
def started (initial : Option Path) : Collection := initial.elim empty forFile

/-- The paths that a collection has been told of, in order. -/
def named (initial : Option Path) (added : List (Path × Diagnostic)) : List Path :=
  initial.toList ++ added.map Prod.fst

/-- A collection that is started, with a file or without one, is in order. -/
theorem ordered_started (initial : Option Path) : Ordered (started initial).files := by
  cases initial with
  | none => exact .nil
  | some file => exact ordered_forFile file

section Added

variable (initial : Option Path) (added : List (Path × Diagnostic))

/-- It stays in order whatever is added to it. -/
theorem ordered_addAll_started : Ordered ((started initial).addAll added).files :=
  ordered_addAll added (ordered_started initial)

/-- A file is named by being the one that the collection was started with, or by having diagnostics. -/
theorem exists_named_iff (q : Path) :
    (∃ p ∈ named initial added, p.Same q) ↔ (∃ p ∈ initial, p.Same q) ∨ listing q added ≠ [] := by
  simp [named, listing, or_and_right, exists_or]

/-- A path is found if it was named, with what was added to it. -/
theorem get?_addAll_started (q : Path) :
    ((started initial).addAll added).get? q =
      if ∃ p ∈ named initial added, p.Same q then some (listing q added) else none := by
  have hstart : (started initial).get? q = if ∃ p ∈ initial, p.Same q then some [] else none := by
    cases initial with
    | none => rfl
    | some file => by_cases hsame : file.Same q <;> simp [started, forFile, get?, hsame]
  rw [get?_addAll added (ordered_started initial), hstart]
  simp only [exists_named_iff]
  by_cases hnone : listing q added = []
  · simp [hnone]
  · have hnothing : (if ∃ p ∈ initial, p.Same q then some ([] : List Diagnostic) else none).getD [] =
        [] := by
      split <;> rfl
    rw [if_neg hnone, hnothing, if_pos (.inr hnone), List.nil_append]

/-- A file is listed under the first spelling by which it was named. -/
theorem mem_keys_addAll_started (key : Path) :
    key ∈ keys ((started initial).addAll added).files ↔
      (named initial added).find? (·.Same key) = some key := by
  induction added using List.reverseRecOn with
  | nil =>
    cases initial with
    | none => simp [keys, started, addAll, empty, named]
    | some file =>
      have hself : file.Same file := rfl
      constructor
      · intro hkey
        obtain rfl : key = file := List.mem_singleton.mp hkey
        simp [named, hself]
      · intro hkey
        obtain rfl : file = key := by
          by_cases hsame : file.Same key
          · simpa [named, hsame] using hkey
          · simp [named, hsame] at hkey
        simp [keys, started, addAll, forFile]
  | append_singleton front last ih =>
    have hfront := ordered_addAll_started initial front
    have hadd : (started initial).addAll (front ++ [last]) =
        ((started initial).addAll front).add last.1 last.2 := List.foldl_append
    have hnew : (∀ entry ∈ ((started initial).addAll front).files, ¬entry.1.Same last.1) ↔
        (named initial front).find? (·.Same last.1) = none := by
      rw [← get?_eq_none_iff, get?_addAll_started, List.find?_eq_none]
      simp
    have hnamed : named initial (front ++ [last]) = named initial front ++ [last.1] := by
      simp [named]
    rw [hadd, add, mem_keys_insert hfront, ih, hnew, hnamed, List.find?_append,
      Option.or_eq_some_iff]
    refine or_congr_right ⟨?_, ?_⟩
    · rintro ⟨rfl, hnone⟩
      have hself : last.1.Same last.1 := rfl
      exact ⟨hnone, by simp [hself]⟩
    · rintro ⟨hnone, hlast⟩
      obtain rfl : last.1 = key := by
        by_cases hsame : last.1.Same key
        · simpa [hsame] using hlast
        · simp [hsame] at hlast
      exact ⟨rfl, hnone⟩

/-- What is told of different files in turn may be told in another order. -/
theorem addAll_swap {a b : Path × Diagnostic} (h : ¬a.1.Same b.1)
    (front back : List (Path × Diagnostic)) :
    (started initial).addAll (front ++ b :: a :: back) =
      (started initial).addAll (front ++ a :: b :: back) := by
  have hone : ∀ q, a.1.Same q → ¬b.1.Same q := fun q ha hb => h (ha.trans hb.symm)
  have hnamed : ∀ q, (named initial (front ++ b :: a :: back)).find? (·.Same q) =
      (named initial (front ++ a :: b :: back)).find? (·.Same q) := by
    intro q
    simp only [named, List.map_append, List.map_cons, List.find?_append, List.find?_cons]
    by_cases ha : a.1.Same q
    · simp [ha, hone q ha]
    · simp [ha]
  have hlisting : ∀ q, listing q (front ++ b :: a :: back) = listing q (front ++ a :: b :: back) := by
    intro q
    by_cases ha : a.1.Same q
    · simp [listing, ha, hone q ha]
    · simp [listing, List.filter_cons, ha]
  have hexists : ∀ q, (∃ p ∈ named initial (front ++ b :: a :: back), p.Same q) ↔
      ∃ p ∈ named initial (front ++ a :: b :: back), p.Same q := by
    intro q
    rw [exists_named_iff, exists_named_iff, hlisting]
  refine eq_of_keys_of_get? (ordered_addAll_started ..) (ordered_addAll_started ..) ?_ ?_
  · intro key
    rw [mem_keys_addAll_started, mem_keys_addAll_started, hnamed]
  · intro q
    rw [get?_addAll_started, get?_addAll_started, hlisting]
    simp only [hexists]

/-- Each file is listed with just the diagnostics that were added to it. -/
theorem files_addAll_started :
    let c := (started initial).addAll added
    c.files = (keys c.files).map fun key => (key, listing key added) := by
  intro c
  rw [keys, List.map_map]
  refine (List.map_id' _).symm.trans (List.map_congr_left fun entry hentry => ?_)
  have hfound : c.get? entry.1 = some entry.2 := get?_of_mem (ordered_addAll_started ..) hentry
  rw [get?_addAll_started] at hfound
  split at hfound
  · exact Prod.ext rfl (Option.some.inj hfound).symm
  · cases hfound

end Added

/-- Whatever is added to a collection that starts without files or for one file, its files stand in
order, component by component, so none is listed under two spellings. The paths that are listed are
those that were named before any other spelling of theirs. A path is found just if some spelling of it
was named, with all that was added under its spellings, in order; nothing is lost, and diagnostics of
different files that came one after the other may change places. -/
theorem multimap_by_path (initial : Option Path) (added : List (Path × Diagnostic)) :
    let c := (started initial).addAll added
    (keys c.files).Pairwise Path.Before ∧
      (keys c.files).Pairwise (fun p q => ¬p.Same q) ∧
      (∀ key, key ∈ keys c.files ↔ (named initial added).find? (·.Same key) = some key) ∧
      c.files = (keys c.files).map (fun key => (key, listing key added)) ∧
      (∀ q, c.get? q =
        if ∃ p ∈ named initial added, p.Same q then some (listing q added) else none) ∧
      c.total = added.length ∧
      ∀ front a b back, added = front ++ a :: b :: back → ¬a.1.Same b.1 →
        (started initial).addAll (front ++ b :: a :: back) = c := by
  intro c
  have hordered : (keys c.files).Pairwise fun p q => p.compare q = .lt :=
    List.pairwise_map.mpr (ordered_addAll_started initial added)
  have htotal : (started initial).total = 0 := by cases initial <;> rfl
  refine ⟨hordered.imp Path.compare_eq_lt_iff.mp, hordered.imp fun hlt hsame => ?_,
    mem_keys_addAll_started initial added, files_addAll_started initial added,
    get?_addAll_started initial added, ?_, ?_⟩
  · simp [Path.compare_eq_iff.mpr hsame] at hlt
  · rw [total_addAll, htotal, Nat.zero_add]
  · rintro front a b back rfl hdifferent
    exact addAll_swap initial hdifferent front back

/-- A file under two spellings comes once, in front of one whose folder has a dot in its name, and it
does not matter that the other was named first. -/
theorem respelled_listed_once :
    let note : String → Diagnostic := fun text => ⟨.atStart, .warning, text⟩
    let old : Path × Diagnostic := (⟨"/specs.old/Queue.tla"⟩, note "old")
    let first : Path × Diagnostic := (⟨"/specs//Queue.tla"⟩, note "first")
    let second : Path × Diagnostic := (⟨"/specs/./Queue.tla/"⟩, note "second")
    ¬old.1.Same first.1 ∧
      (started none).addAll [first, old, second] = (started none).addAll [old, first, second] ∧
      ((started none).addAll [old, first, second]).files =
        [(first.1, [first.2, second.2]), (old.1, [old.2])] := by
  intro note old first second
  have hdifferent : ¬old.1.Same first.1 := by decide
  obtain ⟨-, -, -, -, -, -, hswap⟩ := multimap_by_path none [old, first, second]
  exact ⟨hdifferent, hswap [] old first [second] rfl hdifferent, by decide⟩

end ModelCheck.Collection
