import ModelCheck.Config.Load
import ModelCheck.Proofs.Config.Fields

/-!
# Which value a setting has

Flags go before variables of the environment, these before the file, and the file before what is built in;
only for the Java installation the environment has one more say if nobody else gives it. The file is one
file: the one that is named, or else the first of the candidates that is there.
-/

namespace ModelCheck.Config

variable {files : FileTree} {here : Place} {e : Environment} {f : Flags}
  {userDirectory named : Option Path} {d : Toml.Entries} {c : Config}

/-- The first value that is present, or else another one. -/
def firstPresent {α : Type} (layers : List (Option α)) (otherwise : α) : α :=
  (layers.findSome? id).getD otherwise

/-! ### Layers -/

/-- The flag and the environment go before what a configuration has. -/
theorem get_layers_of_ne (field : Field) (hfield : field ≠ .javaHome) (e : Environment) (f : Flags)
    (c : Config) :
    field.setting.get ((c.withEnvironment e).withFlags f) =
      firstPresent [field.setting.flag f, field.setting.environment e] (field.setting.get c) := by
  cases field with
  | javaHome => exact absurd rfl hfield
  | toolsJar =>
    simp only [Field.setting, withFlags, withEnvironment, firstPresent]
    cases f.jar <;> cases e.filled? "TLCRUN_TLA2TOOLS_JAR" <;> rfl
  | diagnosticsPath =>
    simp only [Field.setting, withFlags, withEnvironment, firstPresent]
    cases f.diagnostics <;> cases e.filled? "TLCRUN_DIAGNOSTICS_PATH" <;> rfl
  | ascii =>
    simp only [Field.setting, withFlags, withEnvironment, firstPresent]
    cases f.ascii <;> rfl
  | _ => rfl

/-- The Java installation of a configuration goes before `JAVA_HOME`, but not before the other variable. -/
theorem home_withEnvironment (e : Environment) (c : Config) :
    (c.withEnvironment e).java.home =
      ((e.filled? "TLCRUN_JAVA_HOME").map Path.mk).or
        (c.java.home.or ((e.filled? "JAVA_HOME").map Path.mk)) := by
  simp only [withEnvironment]
  cases e.filled? "TLCRUN_JAVA_HOME" <;> cases c.java.home <;> cases e.filled? "JAVA_HOME" <;> rfl

/-- The Java installation is the only setting with a say of the environment behind the file. -/
theorem javaHome_layers (e : Environment) (f : Flags) (c : Config) :
    ((c.withEnvironment e).withFlags f).java.home =
      firstPresent [Field.javaHome.setting.flag f, Field.javaHome.setting.environment e,
        c.java.home.map some, Field.javaHome.setting.fallback e] none := by
  simp only [Field.setting, withFlags, home_withEnvironment, firstPresent]
  cases f.javaHome <;> cases e.filled? "TLCRUN_JAVA_HOME" <;> cases c.java.home <;>
    cases e.filled? "JAVA_HOME" <;> rfl

/-- The environment has its say once. -/
theorem withEnvironment_withEnvironment (e : Environment) (c : Config) :
    (c.withEnvironment e).withEnvironment e = c.withEnvironment e := by
  apply eq_of_get
  intro field
  cases field with
  | javaHome =>
    -- Once `JAVA_HOME` has been taken over, nothing is missing any more.
    simp only [Field.setting, home_withEnvironment]
    cases e.filled? "TLCRUN_JAVA_HOME" <;> cases c.java.home <;> cases e.filled? "JAVA_HOME" <;> rfl
  | toolsJar =>
    simp only [Field.setting, withEnvironment]
    cases e.filled? "TLCRUN_TLA2TOOLS_JAR" <;> rfl
  | diagnosticsPath =>
    simp only [Field.setting, withEnvironment]
    cases e.filled? "TLCRUN_DIAGNOSTICS_PATH" <;> rfl
  | _ => rfl

/-- A file that gives the Java installation gives a path. -/
theorem written?_javaHome :
    Field.javaHome.setting.written? d =
      ((Field.javaHome.setting.written? d).getD none).map some := by
  unfold Setting.written?
  cases Field.javaHome.setting.raw? d with
  | none => rfl
  | some v =>
    simp only [Option.bind_some, Field.setting, givenPath?]
    cases path? v <;> rfl

/-- The value that a setting should have after all. -/
def Setting.resolve {α : Type} (s : Setting α) (f : Flags) (e : Environment) (d : Toml.Entries) : α :=
  firstPresent [s.flag f, s.environment e, s.written? d, s.fallback e] s.builtIn

/-- The settings of a document after both layers. -/
theorem get_eq_resolve (h : ofDocument? d = some c) (field : Field) (e : Environment) (f : Flags) :
    field.setting.get ((c.withEnvironment e).withFlags f) = field.setting.resolve f e d := by
  by_cases hfield : field = .javaHome
  · subst hfield
    have hget : c.java.home = (Field.javaHome.setting.written? d).getD none :=
      get_of_ofDocument? h .javaHome
    have hlayers := javaHome_layers e f c
    rw [hget, ← written?_javaHome] at hlayers
    exact hlayers
  · rw [get_layers_of_ne field hfield, get_of_ofDocument? h]
    have hfallback : field.setting.fallback e = none := by
      cases field with
      | javaHome => exact absurd rfl hfield
      | _ => rfl
    unfold Setting.resolve firstPresent
    rw [hfallback]
    cases field.setting.flag f <;> cases field.setting.environment e <;>
      cases field.setting.written? d <;> rfl

/-- What neither a flag nor the environment gives is decided by the file. -/
theorem Setting.resolve_eq_getD {α : Type} {s : Setting α} (hflag : s.flag f = none)
    (henvironment : s.environment e = none) (hfallback : s.fallback e = none) :
    s.resolve f e d = (s.written? d).getD s.builtIn := by
  unfold Setting.resolve firstPresent
  rw [hflag, henvironment, hfallback]
  cases s.written? d <;> rfl

/-- The flag can only turn plain characters on. It cannot turn off what the file asks for. -/
theorem resolve_ascii (f : Flags) (e : Environment) (d : Toml.Entries) :
    Field.ascii.setting.resolve f e d = true ↔
      f.ascii = true ∨ Field.ascii.setting.written? d = some true := by
  have hflag : Field.ascii.setting.flag f = if f.ascii then some true else none := rfl
  cases hgiven : f.ascii with
  | true =>
    have hresolve : Field.ascii.setting.resolve f e d = true := by
      simp [Setting.resolve, firstPresent, hflag, hgiven]
    simp [hresolve]
  | false =>
    have hnone : Field.ascii.setting.flag f = none := by simp [hflag, hgiven]
    have hresolve : Field.ascii.setting.resolve f e d =
        (Field.ascii.setting.written? d).getD false := Setting.resolve_eq_getD hnone rfl rfl
    rw [hresolve]
    cases Field.ascii.setting.written? d <;> simp

/-- The settings that nothing but a file can change. -/
theorem resolve_of_file_only {field : Field}
    (h : field ∈ [Field.javaOptions, .loggingLevel, .loggingDirectory, .acceptsOffers])
    (f : Flags) (e : Environment) (d : Toml.Entries) :
    field.setting.resolve f e d = (field.setting.written? d).getD field.setting.builtIn := by
  simp only [List.mem_cons, List.not_mem_nil, or_false] at h
  rcases h with rfl | rfl | rfl | rfl <;> exact Setting.resolve_eq_getD rfl rfl rfl

/-! ### Files -/

/-- The file that is read, if there is one. -/
def source? (files : FileTree) (here : Place) (userDirectory named : Option Path) : Option Path :=
  named.or ((candidates userDirectory).find? (files.exists? here))

/-- The document in a file. -/
def documentIn? (files : FileTree) (here : Place) (path : Path) : Option Toml.Entries :=
  (files.readText here path).toOption.bind Toml.parse?

/-- The document that is read. Without a file it is empty. -/
def document? (files : FileTree) (here : Place) (userDirectory named : Option Path) :
    Option Toml.Entries :=
  (source? files here userDirectory named).elim (some []) (documentIn? files here)

/-- The empty document gives every setting its built-in value. -/
theorem ofDocument?_nil : ofDocument? [] = some default := rfl

/-- What is read from a file comes from the document in it. -/
theorem exists_of_read {path : Path} {b : Config} (h : read files here path = .ok b) :
    ∃ d, documentIn? files here path = some d ∧ ofDocument? d = some b := by
  unfold read at h
  cases htext : files.readText here path with
  | error cause => simp [htext] at h
  | ok text =>
    cases hdocument : Toml.parse? text with
    | none => simp [htext, ofText?, hdocument] at h
    | some d =>
      refine ⟨d, by simp [documentIn?, htext, hdocument, Except.toOption], ?_⟩
      cases hb : ofDocument? d with
      | none => simp [htext, ofText?, hdocument, hb] at h
      | some b' => simpa [htext, ofText?, hdocument, hb] using h

/-- What is loaded comes from one document. -/
theorem exists_of_load (h : load files here e named userDirectory = .ok c) :
    ∃ d b, document? files here userDirectory named = some d ∧ ofDocument? d = some b ∧
      c = b.withEnvironment e := by
  have hload : load files here e named userDirectory =
      ((source? files here userDirectory named).elim (.ok default) (read files here)).map
        (withEnvironment e) := rfl
  rw [hload] at h
  unfold document?
  cases hsource : source? files here userDirectory named with
  | none =>
    have hc : default.withEnvironment e = c := by simpa [hsource, Except.map] using h
    exact ⟨[], default, rfl, ofDocument?_nil, hc.symm⟩
  | some path =>
    cases hread : read files here path with
    | error cause => simp [hsource, hread, Except.map] at h
    | ok b =>
      have hc : b.withEnvironment e = c := by simpa [hsource, hread, Except.map] using h
      obtain ⟨d, hd, hb⟩ := exists_of_read hread
      exact ⟨d, b, hd, hb, hc.symm⟩

/-- Without a named file, the first candidate that is there is read as if it had been named. -/
theorem load_none (files : FileTree) (here : Place) (e : Environment) (userDirectory : Option Path) :
    (∃ before path rest, candidates userDirectory = before ++ path :: rest ∧
      (∀ p ∈ before, files.exists? here p = false) ∧ files.exists? here path = true ∧
      load files here e none userDirectory = load files here e (some path) userDirectory) ∨
    ((∀ p ∈ candidates userDirectory, files.exists? here p = false) ∧
      load files here e none userDirectory = .ok (default.withEnvironment e)) := by
  cases hfind : (candidates userDirectory).find? (files.exists? here) with
  | none =>
    right
    have habsent : ∀ p ∈ candidates userDirectory, files.exists? here p = false := by
      simpa using List.find?_eq_none.1 hfind
    exact ⟨habsent, by simp [load, hfind, Except.map]⟩
  | some path =>
    left
    obtain ⟨hexists, before, rest, hsplit, habsent⟩ := List.find?_eq_some_iff_append.1 hfind
    exact ⟨before, path, rest, hsplit, by simpa using habsent, hexists, by simp [load, hfind]⟩

/-- Nothing but its own text decides what is loaded from a named file. -/
theorem load_some_congr {files' : FileTree} {here' : Place} {userDirectory' : Option Path}
    {path : Path} (h : files'.readText here' path = files.readText here path) :
    load files' here' e (some path) userDirectory' =
      load files here e (some path) userDirectory := by
  simp [load, read, h]

/-! ### One law for all settings -/

/-- Which values the settings have, when a configuration is loaded from a document and flags are given. -/
structure Precedence (files : FileTree) (here : Place) (e : Environment)
    (userDirectory named : Option Path) (f : Flags) (d : Toml.Entries) (c : Config) : Prop where
  document : document? files here userDirectory named = some d
  /-- Whatever the document says of a setting can be read. -/
  readable : ∀ field : Field, (field.setting.raw? d).isSome → (field.setting.written? d).isSome
  /-- The flag, the variable, the file and `JAVA_HOME` in this order, then what is built in. -/
  first_present : ∀ field : Field, field.setting.get (c.withFlags f) =
    firstPresent [field.setting.flag f, field.setting.environment e, field.setting.written? d,
      field.setting.fallback e] field.setting.builtIn
  ascii : (c.withFlags f).console.ascii = true ↔
    f.ascii = true ∨ Field.ascii.setting.written? d = some true
  /-- The settings that nothing but a file can change. -/
  file_only : ∀ field ∈ [Field.javaOptions, .loggingLevel, .loggingDirectory, .acceptsOffers],
    field.setting.get (c.withFlags f) = (field.setting.written? d).getD field.setting.builtIn
  /-- What is left out has the value that it has without a file, and everything else is as before. -/
  omission : ∀ (tables : List String) (keys : String → List String),
    ∃ b, ofDocument? (omitting tables keys d) = some b ∧ ∀ field : Field,
      (field.setting.group ∉ tables → field.setting.key ∉ keys field.setting.group →
        field.setting.get ((b.withEnvironment e).withFlags f) =
          field.setting.get (c.withFlags f)) ∧
      (field.setting.Omitted tables keys d →
        field.setting.get ((b.withEnvironment e).withFlags f) =
          firstPresent [field.setting.flag f, field.setting.environment e,
            field.setting.fallback e] field.setting.builtIn)
  twice : ∀ b : Config, (b.withEnvironment e).withEnvironment e = b.withEnvironment e
  /-- Without a named file it is the first candidate that is there, or none. -/
  first_candidate : named = none →
    (∃ before path rest, candidates userDirectory = before ++ path :: rest ∧
      (∀ p ∈ before, files.exists? here p = false) ∧ files.exists? here path = true ∧
      load files here e named userDirectory = load files here e (some path) userDirectory) ∨
    ((∀ p ∈ candidates userDirectory, files.exists? here p = false) ∧
      c = default.withEnvironment e)
  /-- A named file is all that is read. -/
  one_file : ∀ (files' : FileTree) (here' : Place) (userDirectory' : Option Path) (path : Path),
    files'.readText here' path = files.readText here path →
    load files' here' e (some path) userDirectory' = load files here e (some path) userDirectory

/-- Every setting that is loaded has the first of its values that is present, whatever configuration
directory the system knows for the user. -/
theorem load_precedence (h : load files here e named userDirectory = .ok c) (f : Flags) :
    ∃ d, Precedence files here e userDirectory named f d c := by
  obtain ⟨d, b, hd, hb, rfl⟩ := exists_of_load h
  refine ⟨d, ?_⟩
  constructor
  case document => exact hd
  case readable =>
    intro field hraw
    obtain ⟨v, hv⟩ := Option.isSome_iff_exists.1 hraw
    rw [Setting.written?_of_reads (ofDocument?_eq_some_iff.1 hb field) hv]
    rfl
  case first_present => exact fun field => get_eq_resolve hb field e f
  case ascii =>
    have hascii : ((b.withEnvironment e).withFlags f).console.ascii =
        Field.ascii.setting.resolve f e d := get_eq_resolve hb .ascii e f
    rw [hascii, resolve_ascii]
  case file_only =>
    intro field hfield
    rw [get_eq_resolve hb, resolve_of_file_only hfield]
  case omission =>
    intro tables keys
    obtain ⟨b', hb'⟩ := exists_ofDocument?_omitting hb tables keys
    refine ⟨b', hb', fun field => ⟨fun htable hkey => ?_, fun homitted => ?_⟩⟩
    · rw [get_eq_resolve hb', get_eq_resolve hb]
      unfold Setting.resolve Setting.written?
      rw [Setting.raw?_omitting_of_not_mem htable hkey]
    · rw [get_eq_resolve hb']
      unfold Setting.resolve Setting.written?
      rw [Setting.raw?_omitting_of_omitted homitted]
      rfl
  case twice => exact withEnvironment_withEnvironment e
  case first_candidate =>
    rintro rfl
    rcases load_none files here e userDirectory with hfirst | ⟨habsent, hdefault⟩
    · exact .inl hfirst
    · right
      rw [hdefault] at h
      exact ⟨habsent, (Except.ok.inj h).symm⟩
  case one_file => exact fun files' here' userDirectory' path => load_some_congr

/-- A configuration file in the working directory and another one of the user. -/
def twoFiles : FileTree where
  entries := [
    (["tlcrun.toml".toList],
      .file (Text.encode "[java]\nhome = \"/jdk\"\n[console]\nascii = true\n") false),
    (["root".toList, ".config".toList, "tlcrun".toList, "config.toml".toList],
      .file (Text.encode "[logging]\nlevel = \"debug\"\n") false),
    (["root".toList, ".config".toList, "tlcrun".toList], .directory),
    (["root".toList, ".config".toList], .directory),
    (["root".toList], .directory)]

/-- The file in the working directory is read, and nothing of the user's file, which is there too. -/
theorem twoFiles_precedence :
    let e : Environment := [("JAVA_HOME", "/usr/lib/jvm"), ("TLCRUN_JAVA_HOME", " "),
      ("TLCRUN_TLA2TOOLS_JAR", "/opt/tla2tools.jar")]
    let f : Flags := ⟨none, none, some "out.jsonl", false⟩
    let userDirectory : Option Path := some ⟨"/root/.config"⟩
    ∃ c, load twoFiles [] e none userDirectory = .ok c ∧
      (∃ d, Precedence twoFiles [] e userDirectory none f d c) ∧
      twoFiles.exists? [] ⟨"/root/.config/tlcrun/config.toml"⟩ = true ∧
      c.withFlags f = {
        java := ⟨some ⟨"/jdk"⟩, ["-XX:+UseParallelGC"]⟩
        tools := ⟨⟨"/opt/tla2tools.jar"⟩⟩
        diagnostics := ⟨"out.jsonl"⟩
        logging := ⟨"warn", none⟩
        console := ⟨true, true⟩ } := by
  intro e f userDirectory
  have hloaded : (load twoFiles [] e none userDirectory).toOption.map (withFlags f) = some {
      java := ⟨some ⟨"/jdk"⟩, ["-XX:+UseParallelGC"]⟩
      tools := ⟨⟨"/opt/tla2tools.jar"⟩⟩
      diagnostics := ⟨"out.jsonl"⟩
      logging := ⟨"warn", none⟩
      console := ⟨true, true⟩ } := by decide +kernel
  cases hload : load twoFiles [] e none userDirectory with
  | error cause => simp [hload, Except.toOption] at hloaded
  | ok c =>
    have hresult := by simpa [hload, Except.toOption] using hloaded
    exact ⟨c, rfl, load_precedence hload f, by decide +kernel, hresult⟩

end ModelCheck.Config
