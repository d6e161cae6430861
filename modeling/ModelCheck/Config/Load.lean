import ModelCheck.Config.File
import ModelCheck.Config.Layers
import ModelCheck.FileTree

/-!
# Loading the configuration

The configuration is read from a file that is named, or else from the first file
that is there: one in the working directory, then one in the user's configuration
directory. Without any file the built-in settings hold.
-/

namespace ModelCheck

/-- Why there is no configuration. -/
inductive ConfigError where
  | unreadable (path : Path) (cause : FileError)
  | malformed (path : Path)
deriving DecidableEq, Repr

namespace ConfigError

/-- What the user is told, up to what is wrong in the text of the file. -/
def message : ConfigError → String
  | .unreadable path cause =>
    "failed to read config file " ++ path.spelling ++ ": " ++ cause.message
  | .malformed path => "failed to parse config file " ++ path.spelling ++ ": "

end ConfigError

namespace Config

/-- The configuration file in the working directory. -/
def localFile : Path := ⟨"tlcrun.toml"⟩

/-- The user's configuration file, which lies in the configuration directory of the user. -/
def userFile (userDirectory : Path) : Path := (userDirectory.join ⟨"tlcrun"⟩).join ⟨"config.toml"⟩

/-- The files of which the first one that is there is read. The system tells the user's configuration
directory, if there is one. -/
def candidates (userDirectory : Option Path) : List Path :=
  localFile :: (userDirectory.map userFile).toList

/-- Reads a configuration file. -/
def read (files : FileTree) (here : Place) (path : Path) : Except ConfigError Config :=
  match files.readText here path with
  | .error cause => .error (.unreadable path cause)
  | .ok text => (ofText? text).elim (.error (.malformed path)) .ok

/-- The settings of the file and the environment. If nobody tells the user's configuration directory,
it is the one that the variables name. -/
def load (files : FileTree) (here : Place) (e : Environment) (named : Option Path)
    (userDirectory : Option Path := e.userDirectory?) : Except ConfigError Config :=
  let path := named.or ((candidates userDirectory).find? (files.exists? here))
  (path.elim (.ok default) (read files here)).map (withEnvironment e)

end Config

end ModelCheck
