import ModelCheck.Diagnostic.Collection
import ModelCheck.Proofs.Path.Order

/-!
# Diagnostics by file

A collection keeps its files in path order, each once. So a file is found under every spelling of its
path, with the diagnostics that were added under any spelling, in the order in which they were added.
-/

namespace ModelCheck.Collection

variable {files : List (Path × List Diagnostic)} {file key : Path}

/-- Whether files are listed in path order, each once. -/
def Ordered (files : List (Path × List Diagnostic)) : Prop :=
  files.Pairwise fun a b => a.1.compare b.1 = .lt

/-- The paths under which files are listed. -/
def keys (files : List (Path × List Diagnostic)) : List Path := files.map Prod.fst

/-- A single file is in order. -/
theorem ordered_forFile (file : Path) : Ordered (forFile file).files := List.pairwise_singleton _ _

/-! ### Looking up -/

/-- A file is looked for from the front, by the components of its path. -/
theorem get?_cons (key : Path) (ds : List Diagnostic) (rest : List (Path × List Diagnostic))
    (q : Path) :
    get? ⟨(key, ds) :: rest⟩ q = if key.Same q then some ds else get? ⟨rest⟩ q := by
  by_cases h : key.Same q <;> simp [get?, h]

/-- A file that comes before all others is none of them. -/
theorem not_same_of_lt (h : ∀ entry ∈ files, file.compare entry.1 = .lt) :
    ∀ entry ∈ files, ¬entry.1.Same file := by
  intro entry hentry hsame
  have heq : file.compare entry.1 = .eq := Path.compare_eq_iff.mpr hsame.symm
  simp [h entry hentry] at heq

/-- A file without a list is none of those that are listed. -/
theorem get?_eq_none_iff {q : Path} : get? ⟨files⟩ q = none ↔ ∀ entry ∈ files, ¬entry.1.Same q := by
  simp [get?, List.find?_eq_none]

/-- What comes before the first file comes before all of them. -/
theorem Ordered.lt_of_lt {ds : List Diagnostic} (h : Ordered ((key, ds) :: files))
    (hlt : file.compare key = .lt) : ∀ entry ∈ (key, ds) :: files, file.compare entry.1 = .lt := by
  intro entry hentry
  rcases List.mem_cons.mp hentry with rfl | hentry
  · exact hlt
  · exact Std.TransCmp.lt_trans hlt (List.rel_of_pairwise_cons h hentry)

/-- A listed file is found with its diagnostics. -/
theorem get?_of_mem {entry : Path × List Diagnostic} (h : Ordered files) (hmem : entry ∈ files) :
    get? ⟨files⟩ entry.1 = some entry.2 := by
  induction files with
  | nil => cases hmem
  | cons first rest ih =>
    obtain ⟨firstKey, ds⟩ := first
    rw [get?_cons]
    rcases List.mem_cons.mp hmem with rfl | hmem
    · exact if_pos rfl
    · have hlt : firstKey.compare entry.1 = .lt := List.rel_of_pairwise_cons h hmem
      have hother : ¬firstKey.Same entry.1 := fun hsame => by
        simp [Path.compare_eq_iff.mpr hsame] at hlt
      rw [if_neg hother, ih h.of_cons hmem]

/-! ### Adding one diagnostic -/

section Insert

variable (h : Ordered files) (file : Path) (d : Diagnostic)

include h

/-- A file that is not listed is listed in its place; otherwise the files stay the same. -/
theorem mem_keys_insert :
    key ∈ keys (insert file d files) ↔
      key ∈ keys files ∨ key = file ∧ ∀ entry ∈ files, ¬entry.1.Same file := by
  induction files with
  | nil => simp [insert, keys]
  | cons first rest ih =>
    obtain ⟨firstKey, ds⟩ := first
    have hrest := ih (List.Pairwise.of_cons h)
    rw [insert]
    cases hcompare : file.compare firstKey with
    | lt =>
      have hnew := not_same_of_lt (h.lt_of_lt hcompare)
      constructor
      · intro hkey
        rcases List.mem_cons.mp hkey with rfl | hkey
        · exact .inr ⟨rfl, hnew⟩
        · exact .inl hkey
      · rintro (hkey | ⟨rfl, -⟩)
        · exact List.mem_cons_of_mem _ hkey
        · exact List.mem_cons_self
    | eq =>
      have hsame : firstKey.Same file := (Path.compare_eq_iff.mp hcompare).symm
      simp [keys, hsame]
    | gt =>
      have hother : ¬firstKey.Same file := fun hsame => by
        simp [Path.compare_eq_iff.mpr hsame.symm] at hcompare
      rw [List.forall_mem_cons]
      simp only [keys, List.map_cons, List.mem_cons, hother, not_false_iff, true_and] at hrest ⊢
      rw [hrest, or_assoc]

/-- A new file is put where it belongs, and a known one keeps its place, so the files stay in order. -/
theorem ordered_insert : Ordered (insert file d files) := by
  induction files with
  | nil => exact List.pairwise_singleton _ _
  | cons first rest ih =>
    obtain ⟨firstKey, ds⟩ := first
    rw [insert]
    cases hcompare : file.compare firstKey with
    | lt => exact List.Pairwise.cons (h.lt_of_lt hcompare) h
    | eq => exact List.Pairwise.cons (fun entry => List.rel_of_pairwise_cons h) h.of_cons
    | gt =>
      refine List.Pairwise.cons (fun entry hentry => ?_) (ih h.of_cons)
      have hkey : entry.1 ∈ keys (insert file d rest) := List.mem_map_of_mem hentry
      rcases (mem_keys_insert h.of_cons file d).mp hkey with hold | ⟨hnew, -⟩
      · obtain ⟨old, hold, heq⟩ := List.mem_map.mp hold
        rw [← heq]
        exact List.rel_of_pairwise_cons h hold
      · rw [hnew]
        exact Std.OrientedCmp.gt_iff_lt.mp hcompare

/-- The diagnostic is found under every spelling of its file, behind the earlier ones. Other files are
not touched. -/
theorem get?_insert (q : Path) :
    get? ⟨insert file d files⟩ q =
      if file.Same q then some ((get? ⟨files⟩ q).getD [] ++ [d]) else get? ⟨files⟩ q := by
  induction files with
  | nil => simp [insert, get?]
  | cons first rest ih =>
    obtain ⟨firstKey, ds⟩ := first
    rw [insert]
    cases hcompare : file.compare firstKey with
    | lt =>
      by_cases hq : file.Same q
      · have hnone : get? ⟨(firstKey, ds) :: rest⟩ q = none := by
          refine get?_eq_none_iff.mpr fun entry hentry hsame => ?_
          exact not_same_of_lt (h.lt_of_lt hcompare) entry hentry (hsame.trans hq.symm)
        simp [get?_cons _ _ ((firstKey, ds) :: rest), hq, hnone]
      · simp [get?_cons _ _ ((firstKey, ds) :: rest), hq]
    | eq =>
      have hsame : file.Same firstKey := Path.compare_eq_iff.mp hcompare
      have hiff : firstKey.Same q ↔ file.Same q := by rw [Path.Same, Path.Same, hsame]
      by_cases hq : file.Same q <;> simp [get?_cons, hiff, hq]
    | gt =>
      have hother : ¬file.Same firstKey := fun hsame => by
        simp [Path.compare_eq_iff.mpr hsame] at hcompare
      by_cases hq : firstKey.Same q
      · have hfile : ¬file.Same q := fun hfile => hother (hfile.trans hq.symm)
        simp [get?_cons, hq, hfile]
      · simp [get?_cons, hq, ih h.of_cons]

end Insert

/-! ### The number of diagnostics -/

/-- The first file counts for as many diagnostics as it has. -/
theorem total_cons (entry : Path × List Diagnostic) (rest : List (Path × List Diagnostic)) :
    total ⟨entry :: rest⟩ = entry.2.length + total ⟨rest⟩ := by
  have hstart : ∀ (files : List (Path × List Diagnostic)) (n : Nat),
      files.foldl (fun n entry => n + entry.2.length) n =
        n + files.foldl (fun n entry => n + entry.2.length) 0 := by
    intro files
    induction files with
    | nil => exact fun _ => rfl
    | cons first others ih =>
      intro n
      rw [List.foldl_cons, List.foldl_cons, ih, ih (0 + first.2.length)]
      omega
  rw [total, total, List.foldl_cons, hstart, Nat.zero_add]

/-- An insertion is one diagnostic more, whether the file is new or known. -/
theorem total_insert {d : Diagnostic} : total ⟨insert file d files⟩ = total ⟨files⟩ + 1 := by
  induction files with
  | nil => simp [insert, total]
  | cons first rest ih =>
    obtain ⟨firstKey, ds⟩ := first
    rw [insert]
    cases file.compare firstKey with
    | lt =>
      simp only [total_cons, List.length_singleton]
      omega
    | eq =>
      simp only [total_cons, List.length_append, List.length_singleton]
      omega
    | gt =>
      simp only [total_cons, ih]
      omega

/-! ### Adding many -/

/-- The collection after diagnostics have been added, each to its file. -/
def addAll (added : List (Path × Diagnostic)) (c : Collection) : Collection :=
  added.foldl (fun c entry => c.add entry.1 entry.2) c

/-- The diagnostics among added ones that belong to a file, under whatever spelling. -/
def listing (q : Path) (added : List (Path × Diagnostic)) : List Diagnostic :=
  (added.filter fun entry => entry.1.Same q).map Prod.snd

/-- An addition is listed for the file that it is for, by the components of its path. -/
theorem listing_cons (q : Path) (entry : Path × Diagnostic) (rest : List (Path × Diagnostic)) :
    listing q (entry :: rest) =
      if entry.1.Same q then entry.2 :: listing q rest else listing q rest := by
  by_cases h : entry.1.Same q <;> simp [listing, h]

section AddAll

variable {c : Collection} (added : List (Path × Diagnostic))

/-- Each addition is one diagnostic more. -/
theorem total_addAll (c : Collection) : (c.addAll added).total = c.total + added.length := by
  induction added generalizing c with
  | nil => rfl
  | cons entry rest ih =>
    have hfirst : (c.add entry.1 entry.2).total = c.total + 1 := total_insert
    rw [addAll, List.foldl_cons, ← addAll, ih, hfirst, List.length_cons]
    omega

/-- Additions keep the files in order. -/
theorem ordered_addAll (h : Ordered c.files) : Ordered (c.addAll added).files := by
  induction added generalizing c with
  | nil => exact h
  | cons entry rest ih => exact ih (c := c.add entry.1 entry.2) (ordered_insert h _ _)

/-- What is found of a file is what was listed before and what was added, in order. -/
theorem get?_addAll (h : Ordered c.files) (q : Path) :
    (c.addAll added).get? q =
      if listing q added = [] then c.get? q
      else some ((c.get? q).getD [] ++ listing q added) := by
  induction added generalizing c with
  | nil => rfl
  | cons entry rest ih =>
    have hstep : (c.add entry.1 entry.2).get? q =
        if entry.1.Same q then some ((c.get? q).getD [] ++ [entry.2]) else c.get? q :=
      get?_insert h entry.1 entry.2 q
    rw [addAll, List.foldl_cons, ← addAll, ih (c := c.add entry.1 entry.2) (ordered_insert h _ _),
      hstep]
    rw [listing_cons]
    by_cases hq : entry.1.Same q
    · by_cases hrest : listing q rest = [] <;> simp [hq, hrest]
    · simp [hq]

/-- A file that is listed keeps its spelling. -/
theorem mem_keys_addAll_of_mem (h : Ordered c.files) (hkey : key ∈ keys c.files) :
    key ∈ keys (c.addAll added).files := by
  induction added generalizing c with
  | nil => exact hkey
  | cons entry rest ih =>
    exact ih (c := c.add entry.1 entry.2) (ordered_insert h _ _)
      ((mem_keys_insert h _ _).mpr (.inl hkey))

/-- A file is listed under a spelling that it had before or with a diagnostic. -/
theorem mem_keys_of_addAll (h : Ordered c.files) (hkey : key ∈ keys (c.addAll added).files) :
    key ∈ keys c.files ∨ ∃ entry ∈ added, entry.1 = key := by
  induction added generalizing c with
  | nil => exact .inl hkey
  | cons entry rest ih =>
    rcases ih (c := c.add entry.1 entry.2) (ordered_insert h _ _) hkey with hkey | ⟨e, he, heq⟩
    · rcases (mem_keys_insert h _ _).mp hkey with hkey | ⟨rfl, -⟩
      · exact .inl hkey
      · exact .inr ⟨entry, List.mem_cons_self, rfl⟩
    · exact .inr ⟨e, List.mem_cons_of_mem entry he, heq⟩

end AddAll

/-! ### Coming about -/

/-- The collections that come about: that without files, those for one file, and what they become when
diagnostics are added. -/
inductive Built : Collection → Prop
  | empty : Built .empty
  | forFile (file : Path) : Built (.forFile file)
  | add {c : Collection} (h : Built c) (file : Path) (d : Diagnostic) : Built (c.add file d)

/-- However a collection has come about, its files are in path order. -/
theorem Built.ordered {c : Collection} (h : Built c) : Ordered c.files := by
  induction h with
  | empty => exact .nil
  | forFile file => exact ordered_forFile file
  | add _ file d ih => exact ordered_insert ih file d

end ModelCheck.Collection
