import ModelCheck.Path

/-!
# Configuration

The settings of the program, each with its built-in default.
-/

namespace ModelCheck

namespace Config

/-- The Java machine: its installation, and options for each start. -/
structure Java where
  home : Option Path
  options : List String
deriving DecidableEq, Repr

/-- Where the tools are. -/
structure Tools where
  jar : Path
deriving DecidableEq, Repr

/-- Where diagnostics are written: to standard output, or to the end of a file. -/
structure Diagnostics where
  path : String
deriving DecidableEq, Repr

/-- What is logged, and in which directory besides standard error. -/
structure Logging where
  level : String
  directory : Option Path
deriving DecidableEq, Repr

/-- How the console answers offers and which signs it prints. -/
structure ConsoleSettings where
  acceptsOffers : Bool
  ascii : Bool
deriving DecidableEq, Repr

end Config

/-- The settings of the program. -/
structure Config where
  java : Config.Java
  tools : Config.Tools
  diagnostics : Config.Diagnostics
  logging : Config.Logging
  console : Config.ConsoleSettings
deriving DecidableEq, Repr

namespace Config

/-- The target that stands for standard output. -/
def standardOutput : String := "stdout:"

/-- The built-in settings. -/
def default : Config where
  java := ⟨none, ["-XX:+UseParallelGC"]⟩
  tools := ⟨⟨"tla2tools.jar"⟩⟩
  diagnostics := ⟨standardOutput⟩
  logging := ⟨"warn", none⟩
  console := ⟨true, false⟩

/-- The Java binary of an installation, or the one on the search path. -/
def javaBinary (home : Option Path) : Path :=
  home.elim ⟨"java"⟩ fun h => (h.join ⟨"bin"⟩).join ⟨"java"⟩

end Config

end ModelCheck
