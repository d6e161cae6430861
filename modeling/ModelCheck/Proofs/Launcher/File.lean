import ModelCheck.Launcher
import ModelCheck.Proofs.Path.Parent

/-!
# The file a tool works on

A tool runs in the folder of its file and gets the file's name as its last argument. From that folder
the name leads to the file again, so the two together say as much as the whole path.
-/

namespace ModelCheck.Launcher

/-- A launched tool is pointed at a target: it gets an absolute path, of which it is told the name only,
and runs in the folder in which that name is the target. -/
structure PointsAt (l : Launcher) (tool : String) (toolArguments : List String)
    (file target : Path) : Prop where
  absolute : file.isAbsolute = true
  /-- The last argument is the file name, which is no path through folders. -/
  name : ∃ name, file.fileName? = some name ∧ name ≠ file.spelling ∧ '/' ∉ name.toList ∧
    (l.arguments tool file toolArguments).getLast? = some name
  /-- The folder in which the tool runs is set, and the last argument leads from there to the target. -/
  folder : ∃ folder, directory? file = some folder ∧ folder.isAbsolute = true ∧
    ∀ name, (l.arguments tool file toolArguments).getLast? = some name →
      (folder.join ⟨name⟩).Same target

/-- The last argument of a launch is the name of the file in its folder. -/
theorem getLast?_arguments (l : Launcher) (tool : String) (file : Path)
    (toolArguments : List String) :
    (l.arguments tool file toolArguments).getLast? = some (file.fileName?.getD file.spelling) := by
  rw [arguments, List.getLast?_concat]

/-- An absolute path has no empty spelling, so it is a directory to run in. -/
theorem directory?_of_parent? {file folder : Path} (h : file.parent? = some folder)
    (habsolute : folder.isAbsolute = true) : directory? file = some folder := by
  have hempty : folder.spelling.isEmpty = false := by
    obtain ⟨s, hs, -⟩ := Path.components_of_absolute habsolute
    rw [Bool.eq_false_iff]
    intro hnil
    rw [String.isEmpty_iff] at hnil
    rw [hnil] at hs
    cases hs
  rw [directory?, h, Option.filter_some, hempty]
  rfl

/-- A tool is pointed at every absolute path that has a file name. -/
theorem pointsAt_of_fileName? (l : Launcher) (tool : String) (toolArguments : List String)
    {file : Path} {name : String} (h : file.isAbsolute = true) (hname : file.fileName? = some name) :
    l.PointsAt tool toolArguments file file := by
  obtain ⟨front, hcomponents⟩ := Path.exists_of_fileName? hname
  have htext : Path.IsName name.toList :=
    Path.isName_of_mem_components (p := file) (by simp [hcomponents])
  have hlast : (l.arguments tool file toolArguments).getLast? = some name := by
    rw [getLast?_arguments, hname, Option.getD_some]
  obtain ⟨folder, hparent, habsolute, hsame⟩ := Path.exists_folder h hname
  refine ⟨h, ⟨name, hname, ?_, htext.not_slash, hlast⟩, folder,
    directory?_of_parent? hparent habsolute, habsolute, ?_⟩
  · -- the path begins with a slash, and its name has none
    obtain ⟨s, hs, -⟩ := Path.components_of_absolute h
    intro hwhole
    have hslash := htext.not_slash
    rw [hwhole, hs] at hslash
    exact hslash List.mem_cons_self
  · intro other hother
    obtain rfl := Option.some.inj (hlast.symm.trans hother)
    exact hsame

end ModelCheck.Launcher
