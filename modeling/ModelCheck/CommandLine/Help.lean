import ModelCheck.CommandLine

/-!
# Help

What the program tells about its command line, and its version.
-/

namespace ModelCheck.CommandLine

/-- The name of the program. -/
def programName : String := "tlcrun"

/-- The name and version of the program. -/
def versionText : List String := ["tlcrun-cli 0.1.0"]

/-- What a part of the command line is for: its form and its purpose. -/
abbrev Entry := String × String

/-- The options that any command line may hold. -/
def optionEntries : List Entry :=
  [("    --config <CONFIG>",
    "Config file; defaults to ./tlcrun.toml, then the user config directory"),
   ("    --tla2tools <TLA2TOOLS>", "Path to tla2tools.jar"),
   ("    --java-home <JAVA_HOME>", "Java installation to run TLC with"),
   ("    --diagnostics <DIAGNOSTICS>",
    "Where diagnostics go: `stdout:` or a file to append JSON lines to"),
   ("    --ascii", "Use ASCII markers instead of Unicode symbols"),
   ("-h, --help", "Print help")]

/-- The option that only stands before a subcommand. -/
def versionEntry : Entry := ("-V, --version", "Print version")

/-- The subcommands. -/
def subcommandEntries : List Entry :=
  [(Subcommand.check.word, "Check one specification and exit"),
   (Subcommand.session.word, "Interactive session reading commands from stdin"),
   (helpWord, "Print this message or the help of the given subcommand(s)")]

/-- What the file of a subcommand is for. -/
def fileEntry : Subcommand → Entry
  | .check => ("<FILE>", "The TLA+ specification to check")
  | .session => ("[FILE]", "Specification to open at start")

/-- Entries in lines, the purposes in one column. -/
def table (title : String) (entries : List Entry) : List String :=
  let width := (entries.map (·.1.length)).foldl max 0
  (title ++ ":") :: entries.map fun (form, purpose) =>
    "  " ++ form ++ String.ofList (List.replicate (width + 2 - form.length) ' ') ++ purpose

/-- The purpose of an entry. -/
def purposeOf (word : String) : String := (subcommandEntries.lookup word).getD ""

/-- The text on a topic. -/
def helpText : Topic → List String
  | .program =>
    ["Run the TLC model checker on TLA+ specifications", "",
     "Usage: " ++ programName ++ " [OPTIONS] <COMMAND>", ""]
      ++ table "Commands" subcommandEntries ++ [""]
      ++ table "Options" (optionEntries ++ [versionEntry])
  | .subcommand s =>
    let file := fileEntry s
    [purposeOf s.word, "",
     "Usage: " ++ programName ++ " " ++ s.word ++ " [OPTIONS] " ++ file.1, ""]
      ++ table "Arguments" [file] ++ [""] ++ table "Options" optionEntries
  | .help =>
    [purposeOf helpWord, "", "Usage: " ++ programName ++ " " ++ helpWord ++ " [COMMAND]...", ""]
      ++ table "Arguments" [("[COMMAND]...", "Print help for the subcommand(s)")]

end ModelCheck.CommandLine
