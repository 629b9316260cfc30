import TapeMachine.Config.Resolve

/-! The keys of a configuration file, and decoders that take over just the keys that are present. -/

namespace TapeMachine

/-- A value in a configuration file. -/
inductive FileValue where
  /-- An integer. -/
  | integer (value : Int)
  /-- A truth value. -/
  | truth (answer : Bool)
  /-- A text. -/
  | text (value : Bytes)
  deriving DecidableEq, Repr

namespace FileValue

/-- The integer, if it is one. -/
def integer? : FileValue → Option Int
  | integer value => some value
  | _ => none

/-- The truth value, if it is one. -/
def truth? : FileValue → Option Bool
  | truth answer => some answer
  | _ => none

/-- The text, if it is one. -/
def text? : FileValue → Option Bytes
  | text value => some value
  | _ => none

end FileValue

/-- The keys that are present in a configuration file, with the values that the settings of these
names take from them. -/
abbrev FileKeys := String → Option FileValue

/-- A configuration with the value of one setting overwritten, if there is a new one. -/
def Setting.overwrite (setting : Setting) (value? : Option FileValue) (config : Config) : Config :=
  match setting with
  | integer set => (value?.bind FileValue.integer?).elim config (set · config)
  | truth set => (value?.bind FileValue.truth?).elim config (set · config)
  | text set => (value?.bind FileValue.text?).elim config (set · config)

namespace FileKeys

/-- No key is present. -/
def empty : FileKeys := fun _ => none

/-- The integer under a key, if the key is present. -/
def integer? (keys : FileKeys) (key : String) : Option Int := (keys key).bind FileValue.integer?

/-- The truth value under a key, if the key is present. -/
def truth? (keys : FileKeys) (key : String) : Option Bool := (keys key).bind FileValue.truth?

/-- The text under a key, if the key is present. -/
def text? (keys : FileKeys) (key : String) : Option Bytes := (keys key).bind FileValue.text?

/-- A configuration with exactly those of some named settings overwritten whose keys are present. -/
def overwrite (keys : FileKeys) (settings : List (String × Setting)) (config : Config) : Config :=
  settings.foldl (fun config named => named.2.overwrite (keys named.1) config) config

/-- The settings that a file gives by its keys. -/
def given (keys : FileKeys) : ConfigFlags where
  tapeLength := keys.integer? "tape_length"
  inputMode := keys.text? "input_mode"
  debug := keys.truth? "debug"
  trace := keys.truth? "trace"
  stats := keys.truth? "stats"
  logLevel := keys.text? "log_level"
  logFile := keys.text? "log_file"
  prompt := keys.text? "prompt"

/-- The settings of a configuration are overwritten field by field, each by the key of its name. -/
theorem overwrite_settings (keys : FileKeys) (config : Config) :
    keys.overwrite Config.settings config = config.withFlags keys.given := by
  -- Overwriting one field or leaving it sets the field in both cases.
  have field {α : Type} (get : Config → α) (set : α → Config → Config)
      (own : ∀ config, set (get config) config = config) (value? : Option α) (config : Config) :
      value?.elim config (set · config) = set (value?.getD (get config)) config := by
    cases value? with
    | none => exact (own config).symm
    | some value => rfl
  -- The three kinds of settings differ in how a value is read.
  have integer (get set own value? config) :
      (Setting.integer set).overwrite value? config = set _ config :=
    field get set own (value?.bind FileValue.integer?) config
  have truth (get set own value? config) :
      (Setting.truth set).overwrite value? config = set _ config :=
    field get set own (value?.bind FileValue.truth?) config
  have text (get set own value? config) :
      (Setting.text set).overwrite value? config = set _ config :=
    field get set own (value?.bind FileValue.text?) config
  simp only [overwrite, Config.settings, List.foldl_cons, List.foldl_nil,
    integer (·.tapeLength) (fun value config => { config with tapeLength := value }) fun _ => rfl,
    text (·.inputMode) (fun value config => { config with inputMode := value }) fun _ => rfl,
    truth (·.debug) (fun value config => { config with debug := value }) fun _ => rfl,
    truth (·.trace) (fun value config => { config with trace := value }) fun _ => rfl,
    truth (·.stats) (fun value config => { config with stats := value }) fun _ => rfl,
    text (·.logLevel) (fun value config => { config with logLevel := value }) fun _ => rfl,
    text (·.logFile) (fun value config => { config with logFile := value }) fun _ => rfl,
    text (·.prompt) (fun value config => { config with prompt := value }) fun _ => rfl]
  rfl

end FileKeys

/-- Decoders that overwrite exactly the settings whose keys are present in a text, whenever they
take the text: what is promised of them. -/
structure ConfigDecoders.Overwrite (decoders : ConfigDecoders)
    (keys : ConfigFormat → Bytes → FileKeys) : Prop where
  /-- YAML that is taken, or that ends before anything begins. -/
  yaml : ∀ config text,
    (decoders.yaml Config.settings config text).2 = none ∨
      (decoders.yaml Config.settings config text).2 = some .ended →
    (decoders.yaml Config.settings config text).1 =
      (keys .yaml text).overwrite Config.settings config
  /-- TOML that is taken, whatever other keys it has. -/
  toml : ∀ config text passed, (decoders.toml Config.settings config text).2 = .ok passed →
    (decoders.toml Config.settings config text).1 =
      (keys .toml text).overwrite Config.settings config

/-- A configuration file, if there is one, loads and has some keys. It loads if it can be read, the
extension of its name tells the format in whatever case, and the decoder of that format takes it
with all its keys. -/
inductive ConfigFile.Loads (decoders : ConfigDecoders) (keys : ConfigFormat → Bytes → FileKeys) :
    Option ConfigFile → FileKeys → Prop where
  /-- Without a file no key is present. -/
  | absent : Loads decoders keys none .empty
  /-- YAML is taken, or ends before anything begins. -/
  | yaml {file : ConfigFile} {text : Bytes} (read : file.content = .ok text)
      (named : lowerCase (extension file.path) ∈ [utf8 ".yaml", utf8 ".yml"])
      (taken : (decoders.yaml Config.settings .default text).2 = none ∨
        (decoders.yaml Config.settings .default text).2 = some .ended) :
      Loads decoders keys (some file) (keys .yaml text)
  /-- TOML is taken, and no key is passed over. -/
  | toml {file : ConfigFile} {text : Bytes} (read : file.content = .ok text)
      (named : lowerCase (extension file.path) = utf8 ".toml")
      (taken : (decoders.toml Config.settings .default text).2 = .ok []) :
      Loads decoders keys (some file) (keys .toml text)

/-- Two steps succeed if each of them does. -/
theorem bind_eq_ok_iff {ε α β : Type} {outcome : Except ε α} {next : α → Except ε β} {result : β} :
    outcome >>= next = .ok result ↔ ∃ value, outcome = .ok value ∧ next value = .ok result := by
  cases outcome with
  | error error => exact ⟨nofun, nofun⟩
  | ok value => exact ⟨fun done => ⟨value, rfl, done⟩, fun | ⟨_, rfl, done⟩ => done⟩

/-- Another wording of the error makes no difference to a success. -/
theorem mapError_eq_ok_iff {ε ε' α : Type} {outcome : Except ε α} {wrap : ε → ε'} {result : α} :
    outcome.mapError wrap = .ok result ↔ outcome = .ok result := by
  cases outcome with
  | error error => exact ⟨nofun, nofun⟩
  | ok value => exact ⟨fun | rfl => rfl, fun | rfl => rfl⟩

/-- Two extensions tell YAML. -/
theorem ConfigFormat.ofExtension?_eq_yaml_iff {extension : Bytes} :
    ofExtension? extension = some .yaml ↔ lowerCase extension ∈ [utf8 ".yaml", utf8 ".yml"] := by
  have told : (lowerCase extension = utf8 ".yaml" || lowerCase extension = utf8 ".yml") = true ↔
      lowerCase extension ∈ [utf8 ".yaml", utf8 ".yml"] := by simp
  unfold ofExtension?
  by_cases yaml : lowerCase extension ∈ [utf8 ".yaml", utf8 ".yml"]
  · simp only [told.mpr yaml, if_true, yaml]
  · -- What is left is TOML or nothing.
    simp only [told, yaml, if_false, iff_false]
    split <;> exact nofun

/-- One extension tells TOML, and it is none of those that tell YAML. -/
theorem ConfigFormat.ofExtension?_eq_toml_iff {extension : Bytes} :
    ofExtension? extension = some .toml ↔ lowerCase extension = utf8 ".toml" := by
  have other : utf8 ".toml" ≠ utf8 ".yaml" ∧ utf8 ".toml" ≠ utf8 ".yml" := by decide
  unfold ofExtension?
  by_cases toml : lowerCase extension = utf8 ".toml"
  · simp [toml, other]
  · simp [toml]

namespace ConfigFileError

/-- YAML gives settings if it is taken, or ends before anything begins. -/
theorem orYaml_eq_ok_iff {path : Bytes} {outcome : Config × Option DecodeError} {loaded : Config} :
    orYaml path outcome = .ok loaded ↔
      (outcome.2 = none ∨ outcome.2 = some .ended) ∧ loaded = outcome.1 := by
  obtain ⟨config, _ | error⟩ := outcome
  · simp [orYaml, eq_comm]
  -- Of all errors only the early end of the text is none.
  · cases error <;> simp [orYaml, eq_comm]

/-- TOML gives settings if it is taken with all its keys. -/
theorem orToml_eq_ok_iff {path : Bytes} {outcome : Config × Except DecodeError (List Bytes)}
    {loaded : Config} :
    orToml path outcome = .ok loaded ↔ outcome.2 = .ok [] ∧ loaded = outcome.1 := by
  obtain ⟨config, error | _ | _⟩ := outcome <;> simp [orToml, eq_comm]

end ConfigFileError

variable {decoders : ConfigDecoders} {keys : ConfigFormat → Bytes → FileKeys}

/-- A file gives settings if it loads, and then the default ones with those of its keys. -/
theorem Config.ofFile_eq_ok_iff (overwrites : decoders.Overwrite keys) {file : Option ConfigFile}
    {loaded : Config} :
    Config.ofFile decoders file = .ok loaded ↔
      ∃ fileKeys, ConfigFile.Loads decoders keys file fileKeys ∧
        loaded = Config.default.withFlags fileKeys.given := by
  constructor
  · intro done
    cases file with
    | none =>
      cases done
      exact ⟨_, .absent, rfl⟩
    | some file =>
      -- Reading, naming the format and decoding all have to succeed.
      obtain ⟨text, read, done⟩ := bind_eq_ok_iff.mp done
      replace read := mapError_eq_ok_iff.mp read
      cases named : ConfigFormat.ofExtension? (extension file.path) with
      | none => simp only [named] at done; cases done
      | some format =>
        cases format with
        | yaml =>
          simp only [named] at done
          obtain ⟨taken, rfl⟩ := ConfigFileError.orYaml_eq_ok_iff.mp done
          refine ⟨_, .yaml read (ConfigFormat.ofExtension?_eq_yaml_iff.mp named) taken, ?_⟩
          rw [overwrites.yaml _ _ taken, FileKeys.overwrite_settings]
        -- Both formats go the same way, each with its own promise.
        | toml =>
          simp only [named] at done
          obtain ⟨taken, rfl⟩ := ConfigFileError.orToml_eq_ok_iff.mp done
          refine ⟨_, .toml read (ConfigFormat.ofExtension?_eq_toml_iff.mp named) taken, ?_⟩
          rw [overwrites.toml _ _ _ taken, FileKeys.overwrite_settings]
  · rintro ⟨fileKeys, loads, rfl⟩
    -- A file that loads takes the same three steps.
    cases loads with
    | absent => rfl
    | yaml read named taken =>
      refine bind_eq_ok_iff.mpr ⟨_, mapError_eq_ok_iff.mpr read, ?_⟩
      simp only [ConfigFormat.ofExtension?_eq_yaml_iff.mpr named, ConfigFileError.orYaml_eq_ok_iff]
      exact ⟨taken, by rw [overwrites.yaml _ _ taken, FileKeys.overwrite_settings]⟩
    | toml read named taken =>
      refine bind_eq_ok_iff.mpr ⟨_, mapError_eq_ok_iff.mpr read, ?_⟩
      simp only [ConfigFormat.ofExtension?_eq_toml_iff.mpr named, ConfigFileError.orToml_eq_ok_iff]
      exact ⟨taken, by rw [overwrites.toml _ _ _ taken, FileKeys.overwrite_settings]⟩

end TapeMachine
