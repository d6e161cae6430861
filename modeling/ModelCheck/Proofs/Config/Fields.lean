import ModelCheck.Config.File
import ModelCheck.Config.Layers

/-!
# The settings one by one

The configuration has eight settings. Each stands under a key of its own in a file and has a built-in value;
some can also be given by a variable of the environment or by a flag. A document is read setting by setting,
so a setting that it omits has its built-in value and the others are as they were.
-/

namespace ModelCheck

namespace Toml.Entries

variable {key : String} {t : Entries}

/-- The first entry for a key counts, so an entry in front goes before the others. -/
theorem get?_cons (e : String × Value) (t : Entries) :
    get? key (e :: t) = if e.1 = key then some e.2 else get? key t := by
  unfold get?
  by_cases h : e.1 = key <;> simp [h]

/-- When the entries are kept or not by their keys, those of a key that is kept are found as before. -/
theorem get?_filter (keep : String → Bool) :
    get? key (t.filter fun e => keep e.1) = if keep key then get? key t else none := by
  induction t with
  | nil => simp [get?]
  | cons e t ih =>
    by_cases hkey : e.1 = key
    · subst hkey
      by_cases hkeep : keep e.1 <;> simp [hkeep, get?_cons, ih]
    · by_cases hkeep : keep e.1 <;> simp [hkeep, hkey, get?_cons, ih]

/-- Changing the values of all entries changes the value that is found. -/
theorem get?_map (change : String → Value → Value) :
    get? key (t.map fun e => (e.1, change e.1 e.2)) = (get? key t).map (change key) := by
  induction t with
  | nil => rfl
  | cons e t ih =>
    by_cases hkey : e.1 = key
    · simp [get?_cons, hkey]
    · simp [get?_cons, hkey, ih]

end Toml.Entries

namespace Config

/-- A setting: where it stands in a file and how it is read there, and where else it can come from. -/
structure Setting (α : Type) where
  group : String
  key : String
  position : Nat
  read? : Toml.Value → Option α
  builtIn : α
  /-- Its value in a configuration. -/
  get : Config → α
  flag : Flags → Option α := fun _ => none
  environment : Environment → Option α := fun _ => none
  /-- What the environment gives if nothing else does. -/
  fallback : Environment → Option α := fun _ => none

/-- The settings there are. -/
inductive Field where
  | javaHome | javaOptions | toolsJar | diagnosticsPath | loggingLevel | loggingDirectory
  | acceptsOffers | ascii
deriving DecidableEq, Repr

namespace Field

/-- The values of a setting. -/
@[reducible] def Value : Field → Type
  | .javaHome | .loggingDirectory => Option Path
  | .javaOptions => List String
  | .toolsJar => Path
  | .diagnosticsPath | .loggingLevel => String
  | .acceptsOffers | .ascii => Bool

/-- Each of the settings. -/
def setting : (field : Field) → Setting field.Value
  | .javaHome => {
      group := "java", key := "home", position := 0, read? := givenPath?, builtIn := none
      get := fun c => c.java.home
      flag := fun f => f.javaHome.map some
      environment := fun e => (e.filled? "TLCRUN_JAVA_HOME").map fun v => some ⟨v⟩
      fallback := fun e => (e.filled? "JAVA_HOME").map fun v => some ⟨v⟩ }
  | .javaOptions => {
      group := "java", key := "options", position := 1, read? := strings?
      builtIn := ["-XX:+UseParallelGC"]
      get := fun c => c.java.options }
  | .toolsJar => {
      group := "tools", key := "tla2tools_jar", position := 0, read? := path?
      builtIn := ⟨"tla2tools.jar"⟩
      get := fun c => c.tools.jar
      flag := fun f => f.jar
      environment := fun e => (e.filled? "TLCRUN_TLA2TOOLS_JAR").map Path.mk }
  | .diagnosticsPath => {
      group := "diagnostics", key := "path", position := 0, read? := string?, builtIn := "stdout:"
      get := fun c => c.diagnostics.path
      flag := fun f => f.diagnostics
      environment := fun e => e.filled? "TLCRUN_DIAGNOSTICS_PATH" }
  | .loggingLevel => {
      group := "logging", key := "level", position := 0, read? := string?, builtIn := "warn"
      get := fun c => c.logging.level }
  | .loggingDirectory => {
      group := "logging", key := "directory", position := 1, read? := givenPath?, builtIn := none
      get := fun c => c.logging.directory }
  | .acceptsOffers => {
      group := "console", key := "accept_offers", position := 0, read? := boolean?, builtIn := true
      get := fun c => c.console.acceptsOffers }
  | .ascii => {
      group := "console", key := "ascii", position := 1, read? := boolean?, builtIn := false
      get := fun c => c.console.ascii
      flag := fun f => if f.ascii then some true else none }

end Field

/-- The configuration with these values. -/
def ofValues (values : (field : Field) → field.Value) : Config where
  java := ⟨values .javaHome, values .javaOptions⟩
  tools := ⟨values .toolsJar⟩
  diagnostics := ⟨values .diagnosticsPath⟩
  logging := ⟨values .loggingLevel, values .loggingDirectory⟩
  console := ⟨values .acceptsOffers, values .ascii⟩

/-- A configuration with given values has, for each setting, the value that was given. -/
@[simp] theorem get_ofValues (values : (field : Field) → field.Value) (field : Field) :
    field.setting.get (ofValues values) = values field := by
  cases field <;> rfl

/-- There is nothing more to a configuration than its settings. -/
theorem ofValues_get (c : Config) : ofValues (fun field => field.setting.get c) = c := rfl

/-- Two configurations that agree in every setting are the same. -/
theorem eq_of_get {c c' : Config} (h : ∀ field : Field, field.setting.get c = field.setting.get c') :
    c = c' := by
  rw [← ofValues_get c, ← ofValues_get c', funext h]

/-! ### Reading -/

namespace Setting

variable {α : Type} {s : Setting α} {d d' : Toml.Entries} {x : α}

/-- What stands in a document for a setting. -/
def raw? (s : Setting α) (d : Toml.Entries) : Option Toml.Value :=
  (Group.ofKey? d s.group).bind (Group.get? s.key s.position)

/-- The value that a document gives a setting. -/
def written? (s : Setting α) (d : Toml.Entries) : Option α := (s.raw? d).bind s.read?

/-- A setting is read from its group, where it need not be. -/
def Reads (s : Setting α) (d : Toml.Entries) (x : α) : Prop :=
  ∃ g, Group.ofKey? d s.group = some g ∧ g.setting? s.read? s.builtIn s.key s.position = some x

/-- A setting can be read if its group can be, and then from what stands for it, with the built-in value
where nothing does. -/
theorem reads_iff :
    s.Reads d x ↔ Group.ofKey? d s.group ≠ none ∧ (s.raw? d).elim (some s.builtIn) s.read? = some x := by
  unfold Reads raw? Group.setting?
  cases Group.ofKey? d s.group <;> simp

/-- What is written and read is the value; without anything written it is built in. -/
theorem eq_getD_of_reads (h : s.Reads d x) : x = (s.written? d).getD s.builtIn := by
  have hread := (reads_iff.1 h).2
  unfold written?
  cases hraw : s.raw? d with
  | none => simpa [hraw] using hread.symm
  | some v =>
    have hv : s.read? v = some x := by simpa [hraw] using hread
    simp [hv]

/-- Whatever is written can be read. -/
theorem written?_of_reads (h : s.Reads d x) {v : Toml.Value} (hraw : s.raw? d = some v) :
    s.written? d = some x := by
  have hread := (reads_iff.1 h).2
  simpa [written?, hraw] using hread

/-- A document that says nothing else about a setting, and perhaps nothing at all, is read as well. -/
theorem reads_of_raw? (h : s.Reads d x) (hgroup : Group.ofKey? d' s.group ≠ none)
    (hraw : s.raw? d' = s.raw? d ∨ s.raw? d' = none) :
    s.Reads d' ((s.written? d').getD s.builtIn) := by
  have hread := (reads_iff.1 h).2
  refine reads_iff.2 ⟨hgroup, ?_⟩
  rcases hraw with hsame | hnone
  · unfold written?
    rw [hsame]
    cases hraw : s.raw? d with
    | none => rfl
    | some v =>
      have hv : s.read? v = some x := by simpa [hraw] using hread
      simp [hv]
  · simp [written?, hnone]

end Setting

variable {d : Toml.Entries} {c : Config}

/-- A document is read setting by setting. -/
theorem ofDocument?_eq_some_iff :
    ofDocument? d = some c ↔ ∀ field : Field, field.setting.Reads d (field.setting.get c) := by
  constructor
  · intro h field
    unfold ofDocument? at h
    obtain ⟨java, hjava, h⟩ := Option.bind_eq_some_iff.1 h
    obtain ⟨tools, htools, h⟩ := Option.bind_eq_some_iff.1 h
    obtain ⟨diagnostics, hdiagnostics, h⟩ := Option.bind_eq_some_iff.1 h
    obtain ⟨logging, hlogging, h⟩ := Option.bind_eq_some_iff.1 h
    obtain ⟨console, hconsole, h⟩ := Option.bind_eq_some_iff.1 h
    obtain ⟨home, hhome, h⟩ := Option.bind_eq_some_iff.1 h
    obtain ⟨options, hoptions, h⟩ := Option.bind_eq_some_iff.1 h
    obtain ⟨jar, hjar, h⟩ := Option.bind_eq_some_iff.1 h
    obtain ⟨path, hpath, h⟩ := Option.bind_eq_some_iff.1 h
    obtain ⟨level, hlevel, h⟩ := Option.bind_eq_some_iff.1 h
    obtain ⟨directory, hdirectory, h⟩ := Option.bind_eq_some_iff.1 h
    obtain ⟨offers, hoffers, h⟩ := Option.bind_eq_some_iff.1 h
    obtain ⟨ascii, hascii, h⟩ := Option.bind_eq_some_iff.1 h
    obtain rfl := Option.some.inj h
    cases field with
    | javaHome => exact ⟨java, hjava, hhome⟩
    | javaOptions => exact ⟨java, hjava, hoptions⟩
    | toolsJar => exact ⟨tools, htools, hjar⟩
    | diagnosticsPath => exact ⟨diagnostics, hdiagnostics, hpath⟩
    | loggingLevel => exact ⟨logging, hlogging, hlevel⟩
    | loggingDirectory => exact ⟨logging, hlogging, hdirectory⟩
    | acceptsOffers => exact ⟨console, hconsole, hoffers⟩
    | ascii => exact ⟨console, hconsole, hascii⟩
  · intro h
    obtain ⟨java, hjava, hhome⟩ := h .javaHome
    obtain ⟨java, hsame, hoptions⟩ := h .javaOptions
    obtain rfl := Option.some.inj (hsame.symm.trans hjava)
    obtain ⟨tools, htools, hjar⟩ := h .toolsJar
    obtain ⟨diagnostics, hdiagnostics, hpath⟩ := h .diagnosticsPath
    obtain ⟨logging, hlogging, hlevel⟩ := h .loggingLevel
    obtain ⟨logging, hsame, hdirectory⟩ := h .loggingDirectory
    obtain rfl := Option.some.inj (hsame.symm.trans hlogging)
    obtain ⟨console, hconsole, hoffers⟩ := h .acceptsOffers
    obtain ⟨console, hsame, hascii⟩ := h .ascii
    obtain rfl := Option.some.inj (hsame.symm.trans hconsole)
    unfold ofDocument?
    refine Option.bind_eq_some_iff.2 ⟨_, hjava, ?_⟩
    refine Option.bind_eq_some_iff.2 ⟨_, htools, ?_⟩
    refine Option.bind_eq_some_iff.2 ⟨_, hdiagnostics, ?_⟩
    refine Option.bind_eq_some_iff.2 ⟨_, hlogging, ?_⟩
    refine Option.bind_eq_some_iff.2 ⟨_, hconsole, ?_⟩
    refine Option.bind_eq_some_iff.2 ⟨_, hhome, ?_⟩
    refine Option.bind_eq_some_iff.2 ⟨_, hoptions, ?_⟩
    refine Option.bind_eq_some_iff.2 ⟨_, hjar, ?_⟩
    refine Option.bind_eq_some_iff.2 ⟨_, hpath, ?_⟩
    refine Option.bind_eq_some_iff.2 ⟨_, hlevel, ?_⟩
    refine Option.bind_eq_some_iff.2 ⟨_, hdirectory, ?_⟩
    refine Option.bind_eq_some_iff.2 ⟨_, hoffers, ?_⟩
    refine Option.bind_eq_some_iff.2 ⟨_, hascii, ?_⟩
    rfl

/-- A configuration that is read from a document has the written value of each setting, or the built-in
one. -/
theorem get_of_ofDocument? (h : ofDocument? d = some c) (field : Field) :
    field.setting.get c = (field.setting.written? d).getD field.setting.builtIn :=
  Setting.eq_getD_of_reads (ofDocument?_eq_some_iff.1 h field)

/-- A document in which each setting is written as in another one or not at all. -/
theorem exists_ofDocument?_of_raw? {d' : Toml.Entries} (h : ofDocument? d = some c)
    (hgroup : ∀ field : Field, Group.ofKey? d' field.setting.group ≠ none)
    (hraw : ∀ field : Field, field.setting.raw? d' = field.setting.raw? d ∨
      field.setting.raw? d' = none) :
    ∃ c', ofDocument? d' = some c' := by
  refine ⟨ofValues fun field => (field.setting.written? d').getD field.setting.builtIn, ?_⟩
  refine ofDocument?_eq_some_iff.2 fun field => ?_
  rw [get_ofValues]
  exact Setting.reads_of_raw? (ofDocument?_eq_some_iff.1 h field) (hgroup field) (hraw field)

/-! ### Leaving out -/

/-- A table without some of its keys. -/
def withoutKeys (keys : List String) : Toml.Value → Toml.Value
  | .table kind entries => .table kind (entries.filter fun e => e.1 ∉ keys)
  | v => v

/-- A document without some tables, and without some keys of the others. -/
def omitting (tables : List String) (keys : String → List String) (d : Toml.Entries) :
    Toml.Entries :=
  (d.filter fun e => e.1 ∉ tables).map fun e => (e.1, withoutKeys (keys e.1) e.2)

/-- A table of a document that leaves things out is missing, or stands there without the keys that are
left out. -/
theorem get?_omitting (tables : List String) (keys : String → List String) (d : Toml.Entries)
    (group : String) :
    Toml.Entries.get? group (omitting tables keys d) =
      if group ∈ tables then none
      else (Toml.Entries.get? group d).map (withoutKeys (keys group)) := by
  unfold omitting
  rw [Toml.Entries.get?_map fun group => withoutKeys (keys group),
    Toml.Entries.get?_filter fun group => decide (group ∉ tables)]
  by_cases h : group ∈ tables <;> simp [h]

/-- A group without some of its keys. Values that stand by position have no keys. -/
def Group.without (keys : List String) : Group → Group
  | .named entries => .named (entries.filter fun e => e.1 ∉ keys)
  | .positional values => .positional values

/-- Leaving keys out of a value leaves them out of the group that is read from it. -/
theorem ofValue?_withoutKeys (keys : List String) (v : Toml.Value) :
    Group.ofValue? (withoutKeys keys v) = (Group.ofValue? v).map (Group.without keys) := by
  cases v <;> rfl

/-- A group whose table is left out is read as one that gives nothing. -/
theorem ofKey?_omitting (tables : List String) (keys : String → List String) (d : Toml.Entries)
    (group : String) :
    Group.ofKey? (omitting tables keys d) group =
      if group ∈ tables then some (.named [])
      else (Group.ofKey? d group).map (Group.without (keys group)) := by
  unfold Group.ofKey?
  rw [get?_omitting]
  by_cases h : group ∈ tables
  · simp [h]
  · cases hget : Toml.Entries.get? group d with
    | none => simp [h, Group.without]
    | some v => simp [h, ofValue?_withoutKeys]

/-- In a group that names its settings, just the keys that are left out are no longer found. -/
theorem get?_without_named (keys : List String) (key : String) (position : Nat)
    (entries : Toml.Entries) :
    ((Group.named entries).without keys).get? key position =
      if key ∈ keys then none else (Group.named entries).get? key position := by
  have hget : Toml.Entries.get? key (entries.filter fun e => e.1 ∉ keys) =
      if decide (key ∉ keys) then Toml.Entries.get? key entries else none :=
    Toml.Entries.get?_filter fun key => decide (key ∉ keys)
  by_cases h : key ∈ keys <;> simpa [Group.without, Group.get?, h] using hget

namespace Setting

variable {α : Type} {s : Setting α} {tables : List String} {keys : String → List String}

/-- A setting that is left out, with its table or by its key. -/
def Omitted (s : Setting α) (tables : List String) (keys : String → List String)
    (d : Toml.Entries) : Prop :=
  s.group ∈ tables ∨
    s.key ∈ keys s.group ∧ ∀ values, Group.ofKey? d s.group ≠ some (.positional values)

/-- A setting of which neither the table nor the key is left out is written as before. -/
theorem raw?_omitting_of_not_mem (htable : s.group ∉ tables) (hkey : s.key ∉ keys s.group) :
    s.raw? (omitting tables keys d) = s.raw? d := by
  unfold raw?
  rw [ofKey?_omitting, if_neg htable]
  cases Group.ofKey? d s.group with
  | none => rfl
  | some g =>
    cases g with
    | named entries => simp [get?_without_named, hkey]
    | positional values => rfl

/-- Nothing is written for a setting that is left out. -/
theorem raw?_omitting_of_omitted (h : s.Omitted tables keys d) :
    s.raw? (omitting tables keys d) = none := by
  unfold raw?
  rw [ofKey?_omitting]
  rcases h with htable | ⟨hkey, hnamed⟩
  · simp [htable, Group.get?, Toml.Entries.get?]
  · by_cases htable : s.group ∈ tables
    · simp [htable, Group.get?, Toml.Entries.get?]
    · rw [if_neg htable]
      cases hgroup : Group.ofKey? d s.group with
      | none => rfl
      | some g =>
        cases g with
        | named entries => simp [get?_without_named, hkey]
        | positional values => exact absurd hgroup (hnamed values)

/-- Nothing is written anew by leaving out. -/
theorem raw?_omitting (s : Setting α) (tables : List String) (keys : String → List String)
    (d : Toml.Entries) :
    s.raw? (omitting tables keys d) = s.raw? d ∨ s.raw? (omitting tables keys d) = none := by
  by_cases homitted : s.Omitted tables keys d
  · exact .inr (raw?_omitting_of_omitted homitted)
  · left
    have htable : s.group ∉ tables := fun h => homitted (.inl h)
    by_cases hkey : s.key ∈ keys s.group
    · have hpositional : ∃ values, Group.ofKey? d s.group = some (.positional values) :=
        Classical.byContradiction fun h =>
          homitted (.inr ⟨hkey, fun values hvalues => h ⟨values, hvalues⟩⟩)
      obtain ⟨values, hvalues⟩ := hpositional
      simp [raw?, ofKey?_omitting, htable, hvalues, Group.without]
    · exact raw?_omitting_of_not_mem htable hkey

end Setting

/-- What is left of a document is read if the document is. -/
theorem exists_ofDocument?_omitting (h : ofDocument? d = some c) (tables : List String)
    (keys : String → List String) : ∃ c', ofDocument? (omitting tables keys d) = some c' := by
  refine exists_ofDocument?_of_raw? h (fun field => ?_) fun field => field.setting.raw?_omitting ..
  have hgroup : Group.ofKey? d field.setting.group ≠ none :=
    (Setting.reads_iff.1 (ofDocument?_eq_some_iff.1 h field)).1
  rw [ofKey?_omitting]
  by_cases htable : field.setting.group ∈ tables
  · simp [htable]
  · simpa [htable] using hgroup

end Config

end ModelCheck
