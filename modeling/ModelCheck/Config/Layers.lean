import ModelCheck.Config.Basic
import ModelCheck.Text.Blank

/-!
# Layers of configuration

Environment variables go before the file, and flags of the command line go before
both. A variable that holds blank characters only counts as not set.
-/

namespace ModelCheck

/-- The environment variables that are set. -/
abbrev Environment := List (String × String)

namespace Environment

/-- The value of a variable. -/
def get? (name : String) (e : Environment) : Option String := e.lookup name

/-- The value of a variable, unless it is blank. -/
def filled? (name : String) (e : Environment) : Option String :=
  (e.get? name).filter fun v => !Text.isAllBlank v

/-- The user's configuration directory as far as variables name it: an absolute path of its own, or
else one in the home directory. A system may know the home directory without them. -/
def userDirectory? (e : Environment) : Option Path :=
  let given := ((e.get? "XDG_CONFIG_HOME").map Path.mk).filter Path.isAbsolute
  let home := ((e.get? "HOME").filter (!·.isEmpty)).map Path.mk
  given.or (home.map fun h => h.join ⟨".config"⟩)

end Environment

/-- The settings that flags of the command line give. -/
structure Flags where
  jar : Option Path
  javaHome : Option Path
  diagnostics : Option String
  ascii : Bool
deriving DecidableEq, Repr

namespace Config

/-- Lets the environment decide. `JAVA_HOME` is only a fallback. -/
def withEnvironment (e : Environment) (c : Config) : Config :=
  let fallback := if c.java.home.isNone then e.filled? "JAVA_HOME" else none
  let home := (e.filled? "TLCRUN_JAVA_HOME").or fallback
  { c with
    java := { c.java with home := home.elim c.java.home fun v => some ⟨v⟩ }
    tools := ⟨(e.filled? "TLCRUN_TLA2TOOLS_JAR").elim c.tools.jar Path.mk⟩
    diagnostics := ⟨(e.filled? "TLCRUN_DIAGNOSTICS_PATH").getD c.diagnostics.path⟩ }

/-- Lets the command line decide. -/
def withFlags (f : Flags) (c : Config) : Config :=
  { c with
    java := { c.java with home := f.javaHome.or c.java.home }
    tools := ⟨f.jar.getD c.tools.jar⟩
    diagnostics := ⟨f.diagnostics.getD c.diagnostics.path⟩
    console := { c.console with ascii := f.ascii || c.console.ascii } }

end Config

end ModelCheck
