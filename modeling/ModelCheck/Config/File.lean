import ModelCheck.Config.Basic
import ModelCheck.Toml.Document

/-!
# Configuration files

A configuration file sets any part of the settings and leaves the rest at their
defaults. Unknown keys are passed over, but a value of the wrong kind spoils the
whole file. A group of settings may be written as a table or as an array of its
values in their order.
-/

namespace ModelCheck.Config

/-- A group of settings as it is written: by name or by position. -/
inductive Group where
  | named (entries : Toml.Entries)
  | positional (values : List Toml.Value)

namespace Group

/-- The group that a value is. A time has no settings in it. -/
def ofValue? : Toml.Value → Option Group
  | .table _ entries => some (.named entries)
  | .array values => some (.positional values)
  | .tables values => some (.positional values)
  | .time _ => some (.named [])
  | _ => none

/-- The group under a key of the document, empty if it is missing. -/
def ofKey? (document : Toml.Entries) (key : String) : Option Group :=
  (Toml.Entries.get? key document).elim (some (.named [])) ofValue?

/-- The value of a setting, by its name and position. -/
def get? (name : String) (position : Nat) : Group → Option Toml.Value
  | .named entries => Toml.Entries.get? name entries
  | .positional values => values[position]?

/-- A setting read by `read?`, or its default if it is missing. Fails if it is there and cannot be
read. -/
def setting? {α : Type} (read? : Toml.Value → Option α) (default : α) (name : String)
    (position : Nat) (g : Group) : Option α :=
  (g.get? name position).elim (some default) read?

end Group

/-- Reads a string. -/
def string? : Toml.Value → Option String
  | .string s => some s
  | _ => none

/-- Reads a boolean. -/
def boolean? : Toml.Value → Option Bool
  | .boolean b => some b
  | _ => none

/-- Reads an array of strings. -/
def strings? : Toml.Value → Option (List String)
  | .array values => values.mapM string?
  | .tables values => values.mapM string?
  | _ => none

/-- Reads a path. -/
def path? (v : Toml.Value) : Option Path := (string? v).map Path.mk

/-- Reads a path that need not be given. -/
def givenPath? (v : Toml.Value) : Option (Option Path) := (path? v).map some

/-- The settings in a document. -/
def ofDocument? (document : Toml.Entries) : Option Config := do
  let java ← Group.ofKey? document "java"
  let tools ← Group.ofKey? document "tools"
  let diagnostics ← Group.ofKey? document "diagnostics"
  let logging ← Group.ofKey? document "logging"
  let console ← Group.ofKey? document "console"
  pure {
    java := {
      home := ← java.setting? givenPath? default.java.home "home" 0
      options := ← java.setting? strings? default.java.options "options" 1 }
    tools := { jar := ← tools.setting? path? default.tools.jar "tla2tools_jar" 0 }
    diagnostics := { path := ← diagnostics.setting? string? default.diagnostics.path "path" 0 }
    logging := {
      level := ← logging.setting? string? default.logging.level "level" 0
      directory := ← logging.setting? givenPath? default.logging.directory "directory" 1 }
    console := {
      acceptsOffers :=
        ← console.setting? boolean? default.console.acceptsOffers "accept_offers" 0
      ascii := ← console.setting? boolean? default.console.ascii "ascii" 1 } }

/-- The settings in the text of a file. -/
def ofText? (text : String) : Option Config := (Toml.parse? text).bind ofDocument?

end ModelCheck.Config
