import ModelCheck.Proofs.Path.Components
import ModelCheck.Proofs.Report.Spelling

/-!
# Locations that are found

The module of a location is a run of word characters. So it is no path: with the ending of module files
it is the name of a file.
-/

namespace ModelCheck

namespace Location

/-- The module that a location names is a word. -/
theorem find?_moduleName {s : List Char} {l : Location} (h : find? s = some l) :
    Text.IsRun Text.isWord l.moduleName.toList := by
  simp only [find?, Option.bind_eq_bind, Option.bind_eq_some_iff] at h
  obtain ⟨⟨spelled, rest⟩, hfound, range, -, hl⟩ := h
  cases hl
  obtain ⟨place, hplace⟩ := Text.exists_of_leftmost? hfound
  obtain ⟨_, _, _, _, _, hspelled, _⟩ := spelled?_eq_some_iff.mp hplace
  rw [String.toList_ofList]
  exact hspelled.moduleName

/-- The name of the file that holds a module. -/
def fileName (l : Location) : List Char := (l.moduleName ++ ".tla").toList

/-- The file of a module that has been found is a file name, whatever the text it was found in. -/
theorem isName_fileName {s : List Char} {l : Location} (h : find? s = some l) :
    Path.IsName l.fileName := by
  obtain ⟨hne, hword⟩ := find?_moduleName h
  have hslash : Text.isWord '/' = false := by decide
  have hdot : Text.isWord '.' = false := by decide
  have hname : l.fileName = l.moduleName.toList ++ ".tla".toList := String.toList_append
  obtain ⟨c, rest, hrest⟩ := List.exists_cons_of_ne_nil hne
  have hc : c ≠ '.' := by
    rintro rfl
    simp [hword '.' (by simp [hrest])] at hdot
  refine ⟨fun hmem => ?_, ?_⟩
  · rw [hname, List.mem_append] at hmem
    rcases hmem with hmem | hmem
    · simp [hword '/' hmem] at hslash
    · exact absurd hmem (by decide)
  · -- it begins with a word character, so it is neither empty nor made of dots
    rw [hname, hrest, List.cons_append]
    unfold Path.ofPiece
    split
    · next h => cases h
    · next h => exact absurd (List.cons.inj h).1 hc
    · next h => exact absurd (List.cons.inj h).1 hc
    · rfl

end Location

end ModelCheck
