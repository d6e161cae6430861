import ModelCheck.Path
import ModelCheck.Text.Utf8

/-!
# File trees

A file tree gives each place what stands there: a directory or a file. A path is
walked name by name; every place on the way has to be a directory, and `..` leads
to the directory above. A trailing slash asks for a directory.
-/

namespace ModelCheck

/-- A place in a file tree: the names that lead to it from the root. -/
abbrev Place := List (List Char)

/-- What stands at a place. -/
inductive FileNode where
  | directory
  | file (content : Text.Bytes) (executable : Bool)
  /-- A device that is always empty and takes everything. -/
  | void
deriving DecidableEq, Repr

/-- Why a file cannot be used. -/
inductive FileError where
  | missing
  | notExecutable
  | badFormat
  | notDirectory
  | isDirectory
  | nameTooLong
  /-- A character in the path that no path can hold. -/
  | badPath
  /-- The content is not text. -/
  | notText
deriving DecidableEq, Repr

namespace FileError

/-- The wording of a numbered error. -/
def numbered (text : String) (number : Nat) : String :=
  text ++ " (os error " ++ toString number ++ ")"

/-- What the user is told. -/
def message : FileError → String
  | .missing => numbered "No such file or directory" 2
  | .badFormat => numbered "Exec format error" 8
  | .notExecutable => numbered "Permission denied" 13
  | .notDirectory => numbered "Not a directory" 20
  | .isDirectory => numbered "Is a directory" 21
  | .nameTooLong => numbered "File name too long" 36
  | .badPath => "file name contained an unexpected NUL byte"
  | .notText => "stream did not contain valid UTF-8"

end FileError

/-- What stands at the places of a file tree, the latest entry for a place first. -/
structure FileTree where
  entries : List (Place × FileNode)
deriving DecidableEq, Repr

namespace FileTree

/-- A tree that holds nothing but its root. -/
def empty : FileTree := ⟨[]⟩

/-- What stands at a place. -/
def node? (t : FileTree) (p : Place) : Option FileNode :=
  if p = [] then some .directory else t.entries.lookup p

/-- Puts something at a place, in place of what stood there. -/
def put (p : Place) (n : FileNode) (t : FileTree) : FileTree :=
  ⟨(p, n) :: t.entries.filter fun e => e.1 ≠ p⟩

/-- Takes away what stands at a place, and all that stands below it. -/
def remove (p : Place) (t : FileTree) : FileTree :=
  ⟨t.entries.filter fun e => !p.isPrefixOf e.1⟩

/-- Makes sure that a place and all places above it are directories, unless something else stands
there. -/
def makeDirectories (p : Place) (t : FileTree) : FileTree :=
  ((List.range (p.length + 1)).map p.take).foldl
    (fun t q => if (t.node? q).isSome then t else t.put q .directory) t

/-- The place that a path names from the root, if none of its pieces leads upwards. -/
def placeOf (p : Path) : Place :=
  (Path.pieces p.spelling.toList).filter fun piece => piece ≠ [] && piece ≠ ['.']

/-- Puts a file or directory at the place that a path names, with all directories above it. -/
def install (p : Path) (n : FileNode) (t : FileTree) : FileTree :=
  let place := placeOf p
  let t := t.makeDirectories place.dropLast
  match n with
  | .directory => t.makeDirectories place
  | n => t.put place n

/-- The directories that a machine usually has, with its void. -/
def usual : FileTree :=
  let directories := ["/bin", "/dev", "/etc", "/home", "/lib", "/opt", "/proc", "/root", "/run",
    "/sbin", "/srv", "/sys", "/tmp", "/usr/bin", "/usr/lib", "/usr/local/bin", "/usr/sbin",
    "/usr/share", "/var/tmp"]
  (directories.foldl (fun t d => t.install ⟨d⟩ .directory) empty).install ⟨"/dev/null"⟩ .void

/-! ### Walking -/

/-- The most bytes in a name. -/
def longestName : Nat := 255

/-- The most bytes in a path. -/
def longestPath : Nat := 4095

/-- The number of bytes of a text. -/
def byteCount (s : List Char) : Nat := (Text.encode (String.ofList s)).length

/-- Fails unless a directory stands at a place. -/
def needDirectory (t : FileTree) (p : Place) : Except FileError Unit :=
  match t.node? p with
  | some .directory => .ok ()
  | some _ => .error .notDirectory
  | none => .error .missing

/-- One step of a walk. Nothing need stand at the place that it leads to. -/
def enter (t : FileTree) (p : Place) (piece : List Char) : Except FileError Place :=
  (t.needDirectory p).bind fun _ =>
    if piece = [] || piece = ['.'] then .ok p
    else if piece = ['.', '.'] then .ok p.dropLast
    else if longestName < byteCount piece then .error .nameTooLong
    else .ok (p ++ [piece])

/-- Walks pieces of a path from a place. -/
def walk (t : FileTree) (p : Place) (pieces : List (List Char)) : Except FileError Place :=
  pieces.foldlM t.enter p

/-- The place where walking a path begins, and the pieces of the path. -/
def route (directory : Place) (p : Path) : Except FileError (Place × List (List Char)) :=
  let s := p.spelling.toList
  if s = [] then .error .missing
  else if s.contains '\x00' then .error .badPath
  else if longestPath < byteCount s then .error .nameTooLong
  else .ok (if p.isAbsolute then [] else directory, Path.pieces s)

/-- The place that a path leads to from a directory. -/
def find (t : FileTree) (directory : Place) (p : Path) : Except FileError Place :=
  (route directory p).bind fun (start, pieces) => t.walk start pieces

/-- What stands where a path leads to. -/
def get (t : FileTree) (directory : Place) (p : Path) : Except FileError FileNode :=
  (t.find directory p).bind fun place => (t.node? place).elim (.error .missing) .ok

/-- Whether anything stands where a path leads to. -/
def exists? (t : FileTree) (directory : Place) (p : Path) : Bool := (t.get directory p).isOk

/-- Whether a file stands where a path leads to. -/
def isFile (t : FileTree) (directory : Place) (p : Path) : Bool :=
  match t.get directory p with
  | .ok (.file _ _) => true
  | _ => false

/-- The place of the directory that a path leads to. -/
def findDirectory (t : FileTree) (directory : Place) (p : Path) : Except FileError Place :=
  (t.find directory p).bind fun place => (t.needDirectory place).map fun _ => place

/-! ### Reading and writing -/

/-- The content of a file. -/
def read (t : FileTree) (directory : Place) (p : Path) : Except FileError Text.Bytes :=
  (t.get directory p).bind fun
    | .file content _ => .ok content
    | .void => .ok []
    | .directory => .error .isDirectory

/-- The text of a file. -/
def readText (t : FileTree) (directory : Place) (p : Path) : Except FileError String :=
  (t.read directory p).bind fun content =>
    (Text.decodeStrict? content).elim (.error .notText) .ok

/-- Whether a path ends in a slash. -/
def asksForDirectory (pieces : List (List Char)) : Bool := pieces.getLast? = some []

/-- The place of a file that is to be written, be it there or not. -/
def findWritable (t : FileTree) (directory : Place) (p : Path) : Except FileError Place := do
  let (start, pieces) ← route directory p
  if asksForDirectory pieces then
    let above := (pieces.reverse.dropWhile List.isEmpty).drop 1
    let place ← t.walk start above.reverse
    t.needDirectory place
    .error .isDirectory
  else
    let place ← t.walk start pieces
    match t.node? place with
    | some .directory => .error .isDirectory
    | _ => .ok place

/-- Writes at the end of the file at a place, which is created if nothing stands there. -/
def appendAt (place : Place) (content : Text.Bytes) (t : FileTree) : FileTree :=
  match t.node? place with
  | some (.file before executable) => t.put place (.file (before ++ content) executable)
  | some _ => t
  | none => t.put place (.file content false)

/-- Empties the file at a place, which is created if nothing stands there. -/
def truncateAt (place : Place) (t : FileTree) : FileTree :=
  match t.node? place with
  | some (.file _ executable) => t.put place (.file [] executable)
  | some _ => t
  | none => t.put place (.file [] false)

/-- Writes at the end of a file. -/
def append (directory : Place) (p : Path) (content : Text.Bytes) (t : FileTree) :
    Except FileError FileTree :=
  (t.findWritable directory p).map fun place => t.appendAt place content

end FileTree

end ModelCheck
