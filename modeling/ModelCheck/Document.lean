import ModelCheck.Path

/-!
# Documents and the editor

A document is a path with the language its extension gives it. The editor of a
session holds at most one document, the active one; a model is checked only if
the active document is written in TLA+.
-/

namespace ModelCheck

/-- The languages a document can be in. -/
inductive Language where
  | tlaplus
  | configuration
  | plain
deriving DecidableEq, Repr

namespace Language

/-- The identifier a host knows the language by. -/
def id : Language → String
  | .tlaplus => "tlaplus"
  | .configuration => "tlaplus_cfg"
  | .plain => "plaintext"

/-- A text in which the ASCII capitals have become small letters. -/
def lowercase (s : String) : List Char := s.toList.map Char.toLower

/-- The language that goes with an extension, in whatever ASCII case it is written. -/
def ofExtension (extension : String) : Language :=
  if lowercase extension = "tla".toList then .tlaplus
  else if lowercase extension = "cfg".toList then .configuration
  else .plain

end Language

/-- A document open in the editor. -/
structure Document where
  path : Path
  language : Language
deriving DecidableEq, Repr

namespace Document

/-- The document at a path. Without an extension it is plain text. -/
def ofPath (path : Path) : Document :=
  ⟨path, path.extension?.elim .plain Language.ofExtension⟩

/-- Whether the document can be checked as a model. -/
def isTla (d : Document) : Bool := d.language = .tlaplus

end Document

/-- The editor of a session. -/
structure Editor where
  active : Option Document
deriving DecidableEq, Repr, Inhabited

namespace Editor

/-- An editor in which nothing is open. -/
def empty : Editor := ⟨none⟩

/-- Opening a document replaces the active one. -/
def «open» (_ : Editor) (path : Path) : Editor := ⟨some (.ofPath path)⟩

/-- Closing leaves no active document. -/
def close (_ : Editor) : Editor := ⟨none⟩

end Editor

end ModelCheck
