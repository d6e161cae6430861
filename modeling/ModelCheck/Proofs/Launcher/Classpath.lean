import ModelCheck.Controller.Basic
import ModelCheck.Process.Execution
import ModelCheck.Proofs.Path.Place

/-!
# The jar that a tool is run from

Before a tool is launched the jar is looked for from the launcher's own directory, while the tool, which
gets the same path, runs in the folder of its file. So the jar that was found is the one that the tool is
pointed at just if the path denotes the same place from both directories. What executes programs has no
part in this. The trees of files have no links, so a path denotes one place.
-/

namespace ModelCheck.Launcher

variable {α : Type} {execute : Place → String → List String → Except FileError α} {process : α}
  {l : Launcher} {files : FileTree} {here there : Place} {tool : String} {file : Path}
  {toolArguments : List String}

/-- The path that is given as the place to load the tool from. -/
def classpath? (arguments options : List String) : Option Path :=
  match arguments.drop options.length with
  | "-cp" :: path :: _ => some ⟨path⟩
  | _ => none

/-- The classpath that a launch gives is the jar as it was given, behind whatever options there are. -/
theorem classpath?_arguments (l : Launcher) (tool : String) (file : Path)
    (toolArguments : List String) :
    classpath? (l.arguments tool file toolArguments) l.options = some l.jar := by
  simp [classpath?, arguments]

/-- The check for a file walks the whole path, so it finds the place that it answers for. -/
theorem find_of_isFile {p : Path} (h : files.isFile here p = true) :
    ∃ place content executable, files.find here p = .ok place ∧
      files.node? place = some (.file content executable) := by
  unfold FileTree.isFile FileTree.get at h
  cases hfind : files.find here p with
  | error cause => simp [hfind, Except.bind] at h
  | ok place =>
    simp only [hfind, Except.bind] at h
    cases hnode : files.node? place with
    | none => simp [hnode] at h
    | some node =>
      cases node with
      | directory => simp [hnode] at h
      | void => simp [hnode] at h
      | file content executable => exact ⟨place, content, executable, rfl, hnode⟩

/-- A tool is launched just if its jar is a file, its folder is a directory and it is executed there. -/
theorem launchWith_eq_ok_iff :
    launchWith execute l files here tool file toolArguments = .ok process ↔
      files.isFile here l.jar = true ∧ ∃ there, findFolder files here file = .ok there ∧
        execute there l.java.spelling (l.arguments tool file toolArguments) = .ok process := by
  unfold launchWith
  cases hjar : files.isFile here l.jar with
  | false => simp
  | true =>
    cases hfolder : findFolder files here file with
    | error cause => simp [bind, Except.bind, Except.mapError]
    | ok there =>
      cases hexecute : execute there l.java.spelling (l.arguments tool file toolArguments) <;>
        simp [bind, Except.bind, Except.mapError, hexecute]

/-- The folder in which a tool runs is the place that the parent of its file denotes. -/
theorem eq_denoted_of_findFolder {folder : Path} (h : findFolder files here file = .ok there)
    (hfolder : directory? file = some folder) : there = folder.denoted here := by
  rw [findFolder, hfolder, Option.elim_some, FileTree.findDirectory] at h
  cases hfind : files.find here folder with
  | error cause =>
    rw [hfind] at h
    cases h
  | ok place =>
    cases hneed : files.needDirectory place with
    | error cause =>
      simp only [hfind, Except.bind, hneed] at h
      cases h
    | ok _ =>
      simp only [hfind, Except.bind, hneed] at h
      obtain rfl := Except.ok.inj h
      exact FileTree.find_eq_denoted hfind

/-- When a tool has been launched, by whatever executes programs, its jar has been found from the launcher's
directory, and the tool runs in the folder of its file. The path that it gets denotes the same place from
there just if the path is absolute or the two directories agree above its climb. A path without `..`
denotes it just if it is absolute or the file lies in the launcher's own directory. -/
theorem classpath_denotes_jar_iff
    (h : launchWith execute l files here tool file toolArguments = .ok process) :
    ∃ there jar content executable path,
      findFolder files here file = .ok there ∧
      execute there l.java.spelling (l.arguments tool file toolArguments) = .ok process ∧
      (∀ folder, directory? file = some folder → there = folder.denoted here) ∧
      files.find here l.jar = .ok jar ∧ files.node? jar = some (.file content executable) ∧
      classpath? (l.arguments tool file toolArguments) l.options = some path ∧
      (path.denoted there = jar ↔
        l.jar.isAbsolute = true ∨ there.rdrop l.jar.climb = here.rdrop l.jar.climb) ∧
      (['.', '.'] ∉ Path.pieces l.jar.spelling.toList →
        (path.denoted there = jar ↔ l.jar.isAbsolute = true ∨ there = here)) := by
  obtain ⟨hjar, there, hthere, hexecute⟩ := launchWith_eq_ok_iff.mp h
  obtain ⟨jar, content, executable, hfind, hnode⟩ := find_of_isFile hjar
  have hdenoted : jar = l.jar.denoted here := FileTree.find_eq_denoted hfind
  refine ⟨there, jar, content, executable, l.jar, hthere, hexecute,
    fun folder => eq_denoted_of_findFolder hthere, hfind, hnode, classpath?_arguments .., ?_, ?_⟩
  · rw [hdenoted]
    exact Path.denoted_eq_iff
  · intro hup
    rw [hdenoted]
    exact Path.denoted_eq_iff_of_not_mem hup

/-- A directory with a jar in it and one in the folder beside its folder of specifications. -/
def workshop : FileTree :=
  ⟨[(["work".toList], .directory), (["work".toList, "specs".toList], .directory),
    (["work".toList, "lib".toList], .directory),
    (["work".toList, "tla2tools.jar".toList], .file [] false),
    (["work".toList, "lib".toList, "tla2tools.jar".toList], .file [] false)]⟩

/-- A launcher whose jar is given by a path, with Java on the search path. -/
def javaWith (jar : Path) : Launcher := ⟨⟨"java"⟩, ["-XX:+UseParallelGC"], jar⟩

/-- An executor that starts a process for every program, in whatever directory. -/
def executed (_ : Place) (_ : String) (_ : List String) : Except FileError Unit := .ok ()

/-- A jar that is given by a path that climbs is found from both of two neighbouring folders. -/
theorem neighbour_denotes_jar :
    let l := javaWith ⟨"../lib/./tla2tools.jar"⟩
    let file : Path := ⟨"/work/specs/Queue.tla"⟩
    let here : Place := ["work".toList, "lib".toList]
    launchWith executed l workshop here checkerTool file checkerArguments = .ok () ∧
      ∃ there jar path,
        workshop.find here l.jar = .ok jar ∧
        classpath? (l.arguments checkerTool file checkerArguments) l.options = some path ∧
        findFolder workshop here file = .ok there ∧ there ≠ here ∧ path.denoted there = jar := by
  intro l file here
  have hlaunched : launchWith executed l workshop here checkerTool file checkerArguments = .ok () := by
    decide +kernel
  obtain ⟨there, jar, _, _, path, hthere, -, -, hfind, -, hpath, hiff, -⟩ :=
    classpath_denotes_jar_iff hlaunched
  have hfolder : findFolder workshop here file = .ok ["work".toList, "specs".toList] := by
    decide +kernel
  obtain rfl := Except.ok.inj (hfolder.symm.trans hthere)
  refine ⟨hlaunched, _, jar, path, hfind, hpath, hthere, by decide, hiff.mpr (.inr ?_)⟩
  decide +kernel

/-- A jar that is given by its name alone is found where the launcher is, but the tool, which is launched
all the same, is pointed at a place in the folder of its file, where there is none. -/
theorem nameAlone_denotes_elsewhere :
    let l := javaWith ⟨"tla2tools.jar"⟩
    let file : Path := ⟨"/work/specs/Queue.tla"⟩
    let here : Place := ["work".toList]
    let there : Place := ["work".toList, "specs".toList]
    file.isAbsolute = true ∧
      launchWith executed l workshop here checkerTool file checkerArguments = .ok () ∧
      workshop.find here l.jar = .ok ["work".toList, "tla2tools.jar".toList] ∧
      directory? file = some ⟨"/work/specs"⟩ ∧ findFolder workshop here file = .ok there ∧
      classpath? (l.arguments checkerTool file checkerArguments) l.options = some l.jar ∧
      l.jar.denoted there = ["work".toList, "specs".toList, "tla2tools.jar".toList] ∧
      workshop.isFile there l.jar = false := by
  decide +kernel

end ModelCheck.Launcher
