import ModelCheck.Diagnostic.Basic

/-!
# Collections of diagnostics

A collection lists diagnostics by file, in the order of paths. A file is known by
the components of its path and keeps the spelling under which it came first. A
file without diagnostics may be listed: it says that earlier ones no longer hold.
-/

namespace ModelCheck

/-- Diagnostics by file, in path order. -/
structure Collection where
  files : List (Path × List Diagnostic)
deriving DecidableEq, Repr

namespace Collection

/-- The collection without files. -/
def empty : Collection := ⟨[]⟩

/-- The collection that lists one file without diagnostics. -/
def forFile (file : Path) : Collection := ⟨[(file, [])]⟩

/-- Puts a diagnostic at the end of a file's list, or the file in its place if it is new. -/
def insert (file : Path) (d : Diagnostic) :
    List (Path × List Diagnostic) → List (Path × List Diagnostic)
  | [] => [(file, [d])]
  | (key, ds) :: rest =>
    match file.compare key with
    | .lt => (file, [d]) :: (key, ds) :: rest
    | .eq => (key, ds ++ [d]) :: rest
    | .gt => (key, ds) :: insert file d rest

/-- Adds a diagnostic to a file. -/
def add (c : Collection) (file : Path) (d : Diagnostic) : Collection := ⟨insert file d c.files⟩

/-- The diagnostics of a file, if the file is listed. -/
def get? (c : Collection) (file : Path) : Option (List Diagnostic) :=
  (c.files.find? fun entry => entry.1.Same file).map (·.2)

/-- The number of diagnostics of all files. -/
def total (c : Collection) : Nat :=
  c.files.foldl (fun n entry => n + entry.2.length) 0

end Collection

end ModelCheck
