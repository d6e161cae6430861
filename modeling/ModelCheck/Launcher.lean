import ModelCheck.Failure
import ModelCheck.Path

/-!
# Launching tools

The checker is a tool in a jar that a Java machine runs, in the directory of the
file it works on. The file is therefore given by its name alone.
-/

namespace ModelCheck

/-- How tools are launched: the Java binary, its options, and the jar with the tools. -/
structure Launcher where
  java : Path
  options : List String
  jar : Path
deriving DecidableEq, Repr

namespace Launcher

/-- The name under which a launcher is known. -/
def name : String := "java"

/-- The arguments for the Java machine. -/
def arguments (l : Launcher) (tool : String) (file : Path) (toolArguments : List String) :
    List String :=
  l.options ++ ["-cp", l.jar.spelling, tool] ++ toolArguments
    ++ [file.fileName?.getD file.spelling]

/-- The directory in which the tool runs, if it is not the one of the launcher itself. -/
def directory? (file : Path) : Option Path := file.parent?.filter fun d => !d.spelling.isEmpty

/-- The failure when the jar is not there. -/
def jarMissing (l : Launcher) : Failure :=
  .ofCause ("tla2tools.jar not found at " ++ l.jar.spelling
    ++ " (set tools.tla2tools_jar or TLCRUN_TLA2TOOLS_JAR)")

/-- The failure when the Java binary cannot be executed. -/
def notExecuted (l : Launcher) (cause : String) : Failure :=
  .within ("failed to execute " ++ l.java.spelling) (.ofCause cause)

end Launcher

end ModelCheck
