import ModelCheck.Proofs.Path.Components

/-!
# Files and their folders

An absolute path with a file name is taken apart into its parent and that name, and the two together
name the same file again, whatever slashes and dots the path is spelled with.
-/

namespace ModelCheck.Path

/-! ### The last step -/

/-- A character that is no slash belongs to the piece at hand. -/
theorem lastPiece_cons_of_ne {c : Char} (h : c ≠ '/') (rest : List Char) :
    lastPiece (c :: rest) = (c :: (lastPiece rest).1, (lastPiece rest).2) := by
  simp [lastPiece, h]

/-- The last piece is all of a text, or stands behind a slash. -/
theorem lastPiece_cases (r : List Char) :
    ('/' ∉ r ∧ lastPiece r = (r, [])) ∨
      ('/' ∉ (lastPiece r).1 ∧ r = (lastPiece r).1 ++ '/' :: (lastPiece r).2) := by
  induction r with
  | nil => exact .inl ⟨List.not_mem_nil, rfl⟩
  | cons c rest ih =>
    by_cases hc : c = '/'
    · subst hc
      exact .inr ⟨List.not_mem_nil, rfl⟩
    · rw [lastPiece_cons_of_ne hc]
      rcases ih with ⟨hrest, hall⟩ | ⟨hlast, hsplit⟩
      · left
        rw [hall]
        exact ⟨by simp [Ne.symm hc, hrest], rfl⟩
      · right
        exact ⟨by simp [Ne.symm hc, hlast], congrArg (c :: ·) hsplit⟩

/-- The last piece of a text adds the last step. -/
theorem steps_reverse (r : List Char) :
    steps r.reverse =
      steps (lastPiece r).2.reverse ++ (ofPiece (lastPiece r).1.reverse).toList := by
  rcases lastPiece_cases r with ⟨hslash, hall⟩ | ⟨hslash, hsplit⟩
  · rw [hall, List.reverse_nil, steps_nil, List.nil_append]
    exact steps_of_not_mem (by simpa using hslash)
  · have hreverse : r.reverse = (lastPiece r).2.reverse ++ '/' :: (lastPiece r).1.reverse := by
      conv_lhs => rw [hsplit]
      simp
    rw [hreverse, steps_append, steps_of_not_mem (s := (lastPiece r).1.reverse) (by simpa using hslash)]

/-- Pieces that contribute nothing are no steps. -/
theorem steps_dropIdle (r : List Char) : steps (dropIdle r).reverse = steps r.reverse := by
  induction r using dropIdle.induct with
  | case1 => rw [dropIdle, dif_pos rfl]
  | case2 r hr c hc => rw [dropIdle, dif_neg hr, hc]
  | case3 r hr hnone ih =>
    rw [dropIdle, dif_neg hr, hnone]
    simp only [ih]
    rw [steps_reverse r, hnone, Option.toList_none, List.append_nil]

/-- What is left of a text without idle pieces ends in a step. -/
theorem exists_step_of_dropIdle {r : List Char} (h : dropIdle r ≠ []) :
    ∃ c, ofPiece (lastPiece (dropIdle r)).1.reverse = some c := by
  induction r using dropIdle.induct with
  | case1 =>
    rw [dropIdle, dif_pos rfl] at h
    exact absurd rfl h
  | case2 r hr c hc =>
    rw [dropIdle, dif_neg hr, hc]
    exact ⟨c, hc⟩
  | case3 r hr hnone ih =>
    rw [dropIdle, dif_neg hr, hnone] at h ⊢
    exact ih h

/-! ### Names -/

/-- Slashes stand between the pieces and not in them. -/
theorem slash_not_mem_pieces {s piece : List Char} (h : piece ∈ pieces s) : '/' ∉ piece := by
  induction s generalizing piece with
  | nil =>
    rw [pieces, List.mem_singleton] at h
    simp [h]
  | cons c rest ih =>
    obtain ⟨first, others, hpieces⟩ := List.exists_cons_of_ne_nil (pieces_ne_nil rest)
    by_cases hc : c = '/'
    · rw [pieces, if_pos hc, List.mem_cons] at h
      rcases h with rfl | h
      · exact List.not_mem_nil
      · exact ih h
    · simp only [pieces, if_neg hc, hpieces, List.mem_cons] at h
      rcases h with rfl | h
      · have hfirst : '/' ∉ first := ih (by simp [hpieces])
        simp [Ne.symm hc, hfirst]
      · exact ih (by simp [hpieces, h])

/-- What a path begins with is the root or the current directory, and no name. -/
theorem name_not_mem_leading (s text : List Char) : .name text ∉ leading s := by
  unfold leading
  split
  · simp
  · split <;> simp

/-- A component that is a name can be the name of a file. -/
theorem isName_of_mem_components {p : Path} {text : List Char} (h : .name text ∈ p.components) :
    IsName text := by
  rw [components_eq, componentsOf, List.mem_append] at h
  obtain ⟨piece, hmem, hpiece⟩ := List.mem_filterMap.mp (h.resolve_left (name_not_mem_leading _ _))
  have hsame : piece = text := by
    unfold ofPiece at hpiece
    split at hpiece <;> simp_all
  subst hsame
  exact ⟨slash_not_mem_pieces hmem, hpiece⟩

/-- A file name is the last component of its path. -/
theorem exists_of_fileName? {p : Path} {name : String} (h : p.fileName? = some name) :
    ∃ front, p.components = front ++ [.name name.toList] := by
  unfold fileName? at h
  split at h
  · next text hlast =>
    obtain ⟨front, hfront⟩ := List.getLast?_eq_some_iff.mp hlast
    obtain rfl := Option.some.inj h
    exact ⟨front, by rw [hfront, String.toList_ofList]⟩
  · cases h

/-- The file name of a path is its last step. -/
theorem getLast?_steps_of_fileName? {p : Path} {name : String} (h : p.fileName? = some name) :
    (steps p.spelling.toList).getLast? = some (.name name.toList) := by
  obtain ⟨front, hcomponents⟩ := exists_of_fileName? h
  have hlast := congrArg List.getLast? hcomponents
  rw [components_eq, componentsOf, ← steps, List.getLast?_append, List.getLast?_concat,
    Option.or_eq_some_iff] at hlast
  rcases hlast with hlast | ⟨-, hleading⟩
  · exact hlast
  · exact absurd (List.mem_of_getLast? hleading) (name_not_mem_leading _ _)

/-- Only a path with a file name has an extension. -/
theorem exists_fileName?_of_extension? {p : Path} {extension : String}
    (h : p.extension? = some extension) : ∃ name, p.fileName? = some name := by
  obtain ⟨name, hname, -⟩ := Option.bind_eq_some_iff.mp h
  exact ⟨name, hname⟩

/-! ### Absolute paths -/

/-- An absolute path goes step by step from the root. -/
theorem components_of_absolute {p : Path} (h : p.isAbsolute = true) :
    ∃ s, p.spelling.toList = '/' :: s ∧ p.components = .root :: steps s := by
  have hhead : p.spelling.toList.head? = some '/' := by simpa [isAbsolute] using h
  obtain ⟨s, hs⟩ := List.head?_eq_some_iff.mp hhead
  have hempty : ofPiece [] = none := rfl
  refine ⟨s, hs, ?_⟩
  rw [components_eq, hs]
  simp [componentsOf, leading, pieces, steps, hempty]

/-- An absolute path has its slash at least. -/
theorem spelling_ne_nil {p : Path} (h : p.isAbsolute = true) : p.spelling.toList ≠ [] := by
  obtain ⟨s, hs, -⟩ := components_of_absolute h
  rw [hs]
  exact List.cons_ne_nil _ _

/-- Whatever is taken relative to an absolute directory is absolute. -/
theorem isAbsolute_join {d : Path} (h : d.isAbsolute = true) (p : Path) :
    (d.join p).isAbsolute = true := by
  cases hp : p.isAbsolute with
  | true => rwa [join, if_pos hp]
  | false =>
    obtain ⟨s, hs, -⟩ := components_of_absolute h
    rw [isAbsolute, spelling_join d hp, hs]
    split <;> simp

/-- A path keeps its file name behind an absolute directory. -/
theorem fileName?_join {d p : Path} {name : String} (h : d.isAbsolute = true)
    (hname : p.fileName? = some name) : (d.join p).fileName? = some name := by
  cases hp : p.isAbsolute with
  | true => rwa [join, if_pos hp]
  | false =>
    have hlast := getLast?_steps_of_fileName? hname
    have hjoin : (d.join p).components.getLast? = some (.name name.toList) := by
      rw [components_join_of_relative (spelling_ne_nil h) hp, List.getLast?_append, hlast]
      rfl
    rw [fileName?, hjoin]
    simp only [String.ofList_toList]

/-- Without its last step an absolute path is its parent. -/
theorem exists_parent?_of_absolute {p : Path} (h : p.isAbsolute = true) {front : List Component}
    {c : Component} (hfront : front ≠ []) (hcomponents : p.components = front ++ [c]) :
    ∃ d, p.parent? = some d ∧ d.isAbsolute = true ∧ d.components = front := by
  obtain ⟨s, hs, hroot⟩ := components_of_absolute h
  have hbody : steps (dropIdle s.reverse).reverse = steps s := by
    rw [steps_dropIdle, List.reverse_reverse]
  have hne : dropIdle s.reverse ≠ [] := by
    intro hnil
    rw [hnil, List.reverse_nil, steps_nil] at hbody
    rw [hroot, ← hbody, ← List.nil_append [Component.root]] at hcomponents
    exact hfront (List.append_inj_left' hcomponents rfl).symm
  obtain ⟨last, hlast⟩ := exists_step_of_dropIdle hne
  let above := (dropIdle (lastPiece (dropIdle s.reverse)).2).reverse
  have habove : steps s = steps above ++ [last] := by
    rw [← hbody, steps_reverse, hlast, ← steps_dropIdle]
    rfl
  refine ⟨⟨String.ofList ('/' :: above)⟩, ?_, ?_, ?_⟩
  · have hlength : headLength ('/' :: s) = 1 := by simp [headLength]
    simp only [parent?, hs, hlength, List.take_succ_cons, List.take_zero, List.drop_succ_cons,
      List.drop_zero, List.isEmpty_eq_false_iff.mpr hne]
    rfl
  · simp [isAbsolute]
  · have hslash : isAbsolute ⟨String.ofList ('/' :: above)⟩ = true := by simp [isAbsolute]
    obtain ⟨t, ht, hparent⟩ := components_of_absolute hslash
    rw [String.toList_ofList] at ht
    obtain rfl := (List.cons.inj ht).2
    rw [hroot, habove, ← List.cons_append] at hcomponents
    rw [hparent]
    exact List.append_inj_left' hcomponents rfl

/-- A file lies in its parent under its name. -/
theorem exists_folder {p : Path} {name : String} (h : p.isAbsolute = true)
    (hname : p.fileName? = some name) :
    ∃ d, p.parent? = some d ∧ d.isAbsolute = true ∧ (d.join ⟨name⟩).Same p := by
  obtain ⟨front, hcomponents⟩ := exists_of_fileName? hname
  have hfront : front ≠ [] := by
    rintro rfl
    obtain ⟨s, -, hroot⟩ := components_of_absolute h
    rw [hroot] at hcomponents
    cases hcomponents
  obtain ⟨d, hparent, habsolute, hd⟩ := exists_parent?_of_absolute h hfront hcomponents
  have htext : IsName name.toList := isName_of_mem_components (p := p) (by simp [hcomponents])
  have hjoin := components_join d htext
  rw [String.ofList_toList] at hjoin
  exact ⟨d, hparent, habsolute, by rw [Same, hjoin, hd, hcomponents]⟩

end ModelCheck.Path
