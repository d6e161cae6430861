import ModelCheck.FileTree

/-!
# Writing at the end of a file

What is written at the end of a file comes behind what the file holds. A file that is written is no
directory, so the path that leads to it still does.
-/

namespace ModelCheck.FileTree

variable {t t' : FileTree} {place directory : Place} {p : Path} {n : FileNode}

/-- What a file at a path holds, nothing if no file stands there. -/
def content (t : FileTree) (directory : Place) (p : Path) : Text.Bytes :=
  match t.get directory p with
  | .ok (.file content _) => content
  | _ => []

/-- Taking away the entries for one place leaves what is found for the others. -/
theorem lookup_filter_ne {q : Place} (hq : q ≠ place) (entries : List (Place × FileNode)) :
    (entries.filter fun e => e.1 ≠ place).lookup q = entries.lookup q := by
  induction entries with
  | nil => rfl
  | cons e rest ih =>
    obtain ⟨key, node⟩ := e
    by_cases hkey : key = place
    · have hne : (q == key) = false := beq_eq_false_iff_ne.mpr (hkey ▸ hq)
      rw [List.filter_cons_of_neg (by simpa using hkey), ih, List.lookup_cons, hne]
    · rw [List.filter_cons_of_pos (by simpa using hkey), List.lookup_cons, List.lookup_cons, ih]

/-- What has been put at a place stands there, and everything else stands where it stood. -/
theorem node?_put (hplace : place ≠ []) (q : Place) :
    (t.put place n).node? q = if q = place then some n else t.node? q := by
  by_cases hq : q = place
  · rw [if_pos hq, hq, node?, if_neg hplace, put, List.lookup_cons_self]
  · have hne : (q == place) = false := beq_eq_false_iff_ne.mpr hq
    rw [if_neg hq, node?, node?, put, List.lookup_cons, hne]
    simp only [lookup_filter_ne hq]

/-- A step of a walk goes as before if no directory has been replaced. -/
theorem enter_put (hplace : place ≠ []) (hfile : t.node? place ≠ some .directory) {q next : Place}
    {piece : List Char} (h : t.enter q piece = .ok next) :
    (t.put place n).enter q piece = .ok next := by
  have hdirectory : t.node? q = some .directory := by
    unfold enter needDirectory at h
    split at h
    · assumption
    · cases h
    · cases h
  have hother : q ≠ place := by
    rintro rfl
    exact hfile hdirectory
  have hput : (t.put place n).node? q = some .directory := by
    rw [node?_put hplace, if_neg hother, hdirectory]
  unfold enter needDirectory at h ⊢
  rw [hdirectory] at h
  rw [hput]
  exact h

/-- A walk leads where it led, since every place that it enters from is a directory still. -/
theorem walk_put (hplace : place ≠ []) (hfile : t.node? place ≠ some .directory) {q last : Place}
    {pieces : List (List Char)} (h : t.walk q pieces = .ok last) :
    (t.put place n).walk q pieces = .ok last := by
  induction pieces generalizing q with
  | nil => exact h
  | cons piece rest ih =>
    rw [walk, List.foldlM_cons] at h ⊢
    cases hfirst : t.enter q piece with
    | error cause =>
      rw [hfirst] at h
      cases h
    | ok next =>
      rw [hfirst] at h
      rw [enter_put hplace hfile hfirst]
      exact ih h

/-- A path leads where it led. -/
theorem find_put (hplace : place ≠ []) (hfile : t.node? place ≠ some .directory) {last : Place}
    (h : t.find directory p = .ok last) : (t.put place n).find directory p = .ok last := by
  unfold find at h ⊢
  cases hroute : route directory p with
  | error cause =>
    rw [hroute] at h
    cases h
  | ok beginning =>
    rw [hroute] at h
    exact walk_put hplace hfile h

/-- A path that can be written leads to a place where no directory stands. -/
theorem find_of_findWritable (h : t.findWritable directory p = .ok place) :
    t.find directory p = .ok place ∧ t.node? place ≠ some .directory := by
  unfold findWritable at h
  unfold find
  cases hroute : route directory p with
  | error cause =>
    rw [hroute] at h
    cases h
  | ok beginning =>
    obtain ⟨start, pieces⟩ := beginning
    simp only [hroute, bind, Except.bind] at h ⊢
    split at h
    · -- a path that asks for a directory is refused wherever it leads
      split at h
      · cases h
      · split at h <;> cases h
    · cases hwalk : t.walk start pieces with
      | error cause =>
        rw [hwalk] at h
        cases h
      | ok last =>
        simp only [hwalk] at h
        split at h
        · cases h
        · next hnot =>
          obtain rfl : last = place := Except.ok.inj h
          exact ⟨rfl, fun hdirectory => hnot hdirectory⟩

/-- After something has been written at the end of a file, the path leads to a file, and that holds
what it has held and behind it what has been written. A device is no file. -/
theorem content_append {written : Text.Bytes} (h : t.append directory p written = .ok t')
    (hvoid : t.get directory p ≠ .ok .void) :
    t'.content directory p = t.content directory p ++ written ∧ t'.get directory p ≠ .ok .void := by
  unfold append at h
  cases hwritable : t.findWritable directory p with
  | error cause =>
    rw [hwritable] at h
    cases h
  | ok place =>
    rw [hwritable] at h
    obtain rfl : t.appendAt place written = t' := Except.ok.inj h
    obtain ⟨hfind, hfile⟩ := find_of_findWritable hwritable
    have hplace : place ≠ [] := by
      rintro rfl
      exact hfile rfl
    have hget : t.get directory p = (t.node? place).elim (.error .missing) .ok := by
      rw [get, hfind]
      rfl
    -- what the path leads to after something has been put there
    have hput : ∀ n, (t.put place n).get directory p = .ok n := by
      intro n
      have hnode := node?_put (t := t) (n := n) hplace place
      rw [if_pos rfl] at hnode
      rw [get, find_put hplace hfile hfind]
      simp only [Except.bind, hnode]
      rfl
    cases hnode : t.node? place with
    | none =>
      rw [hnode] at hget
      simp only [appendAt, content, hnode, hput, hget]
      simp
    | some node =>
      rw [hnode] at hget
      cases node with
      | directory => exact absurd hnode hfile
      | void => exact absurd hget hvoid
      | file before executable =>
        simp only [appendAt, content, hnode, hput, hget]
        simp

end ModelCheck.FileTree
