import TapeMachine.Proofs.Config.Keys
import TapeMachine.Runner

/-! The settings of a command as layers: flags on top of the environment on top of a file on top of
the default settings. -/

namespace TapeMachine

/-- An outcome that is a value, seen as an option. -/
theorem toOption_eq_some_iff {ε α : Type} {outcome : Except ε α} {result : α} :
    outcome.toOption = some result ↔ outcome = .ok result := by
  cases outcome with
  | error error => exact ⟨nofun, nofun⟩
  | ok value => exact ⟨fun | rfl => rfl, fun | rfl => rfl⟩

/-- A runner whose settings ask for a cell does not ask for a tape without one. -/
theorem Runner.start_ne_noCell (runner : Runner) (cell : 1 ≤ runner.config.tapeLength)
    (interactive : Bool) (room : Option Nat) (cancellation : Cancellation) :
    (runner.start interactive room cancellation).2 ≠ .error (.build .noCell) := by
  have long : ¬ (runner.blueprint interactive room cancellation).tapeLength < 1 :=
    Int.not_lt.mpr cell
  unfold start
  split
  · exact nofun
  -- Without a program the start fails for another reason, and so it does for lack of memory.
  · unfold Blueprint.build
    rw [if_neg long]
    split
    · exact nofun
    · split <;> exact nofun

namespace Environment

/-- The value of a variable that is set to something that has one. -/
def value? {α : Type} (environment : Environment) (key : String)
    (parse : Bytes → Except ValueError α) : Option α :=
  (environment key).bind fun text => (parse text).toOption

/-- The settings that an environment gives. -/
def given (environment : Environment) : ConfigFlags where
  tapeLength := environment.value? "BRFK_TAPE_LENGTH" parseDecimal
  inputMode := environment "BRFK_INPUT_MODE"
  debug := environment.value? "BRFK_DEBUG" parseTruth
  trace := environment.value? "BRFK_TRACE" parseTruth
  stats := environment.value? "BRFK_STATS" parseTruth
  logLevel := environment "BRFK_LOG_LEVEL"
  logFile := environment "BRFK_LOG_FILE"
  prompt := environment "BRFK_PROMPT"

/-- A variable has a value if it is set. -/
def Parses {α : Type} (environment : Environment) (key : String)
    (parse : Bytes → Except ValueError α) : Prop :=
  ∀ text, environment key = some text → ∃ value, parse text = .ok value

/-- The variables that are not just texts have values wherever they are set. -/
structure Readable (environment : Environment) : Prop where
  tapeLength : environment.Parses "BRFK_TAPE_LENGTH" parseDecimal
  truth : ∀ key ∈ ["BRFK_DEBUG", "BRFK_TRACE", "BRFK_STATS"], environment.Parses key parseTruth

/-- Reading a variable succeeds if it has a value wherever it is set. -/
theorem read_eq_ok_iff {α : Type} {environment : Environment} {key : String}
    {parse : Bytes → Except ValueError α} {result : Option α} :
    environment.read key parse = .ok result ↔
      environment.Parses key parse ∧ result = environment.value? key parse := by
  unfold read Parses value?
  -- A variable that is not set is read as nothing.
  cases environment key with
  | none => simp [eq_comm]
  | some text => cases parsed : parse text <;> simp [parsed, Except.toOption, eq_comm]

end Environment

namespace Config

/-- The environment is a layer if it is readable. -/
theorem withEnvironment_eq_ok_iff {config result : Config} {environment : Environment} :
    config.withEnvironment environment = .ok result ↔
      environment.Readable ∧ result = config.withFlags environment.given := by
  simp only [withEnvironment, bind_eq_ok_iff, Environment.read_eq_ok_iff]
  -- Four variables are read one after the other, and any of them may fail.
  constructor
  · rintro ⟨_, ⟨tapeLength, rfl⟩, _, ⟨debug, rfl⟩, _, ⟨trace, rfl⟩, _, ⟨stats, rfl⟩, same⟩
    exact ⟨⟨tapeLength, by simp [debug, trace, stats]⟩, (Except.ok.inj same).symm⟩
  · rintro ⟨⟨tapeLength, truth⟩, rfl⟩
    exact ⟨_, ⟨tapeLength, rfl⟩, _, ⟨truth _ (by simp), rfl⟩, _, ⟨truth _ (by simp), rfl⟩, _,
      ⟨truth _ (by simp), rfl⟩, rfl⟩

/-- The settings that the check lets through. -/
theorem validate_eq_ok_iff {config : Config} :
    config.validate = .ok () ↔ 1 ≤ config.tapeLength ∧
      (∃ mode, InputMode.parse? config.inputMode = some mode) ∧
        (∃ level, config.level = .ok level) ∧
          ∃ known ∈ promptSettings, utf8 known = config.prompt := by
  have prompts : (promptSettings.any fun known => utf8 known = config.prompt) = true ↔
      ∃ known ∈ promptSettings, utf8 known = config.prompt := by
    simp only [List.any_eq_true, decide_eq_true_eq]
  rw [← prompts]
  unfold validate
  -- The checks come in this order, and the first that fails decides.
  by_cases short : config.tapeLength < 1
  · rw [if_pos short]
    exact ⟨nofun, fun ⟨cell, _⟩ => absurd cell (Int.not_le.mpr short)⟩
  rw [if_neg short]
  cases InputMode.parse? config.inputMode with
  | none => exact ⟨nofun, fun ⟨_, ⟨_, named⟩, _⟩ => nomatch named⟩
  | some mode =>
    cases config.level with
    | error error => exact ⟨nofun, fun ⟨_, _, ⟨_, leveled⟩, _⟩ => nomatch leveled⟩
    | ok level =>
      by_cases known : (promptSettings.any fun known => utf8 known = config.prompt) = true
      · exact ⟨fun _ => ⟨Int.not_lt.mp short, ⟨mode, rfl⟩, ⟨level, rfl⟩, known⟩,
          fun _ => if_pos known⟩
      · exact ⟨fun done => (nomatch (if_neg known).symm.trans done),
          fun ⟨_, _, _, prompt⟩ => absurd prompt known⟩

/-- Tracing lowers the level so far that trace records get through. -/
theorem level_le_trace {config : Config} {level : LogLevel} (traced : config.trace = true)
    (leveled : config.level = .ok level) : level ≤ .trace := by
  simp only [Config.level, traced, if_true] at leveled
  -- A level that cannot be parsed is no level.
  split at leveled
  · cases leveled
  · cases leveled
    exact Int.min_le_right _ _

/-- The settings by precedence, one by one: what the flag says, or else the variable, or else the
key of the file, or else the default. -/
def layered (flags : ConfigFlags) (environment : Environment) (keys : FileKeys) : Config where
  tapeLength := ((flags.tapeLength.or (environment.value? "BRFK_TAPE_LENGTH" parseDecimal)).or
    (keys.integer? "tape_length")).getD default.tapeLength
  inputMode := ((flags.inputMode.or (environment "BRFK_INPUT_MODE")).or
    (keys.text? "input_mode")).getD default.inputMode
  debug := ((flags.debug.or (environment.value? "BRFK_DEBUG" parseTruth)).or
    (keys.truth? "debug")).getD default.debug
  trace := ((flags.trace.or (environment.value? "BRFK_TRACE" parseTruth)).or
    (keys.truth? "trace")).getD default.trace
  stats := ((flags.stats.or (environment.value? "BRFK_STATS" parseTruth)).or
    (keys.truth? "stats")).getD default.stats
  logLevel := ((flags.logLevel.or (environment "BRFK_LOG_LEVEL")).or
    (keys.text? "log_level")).getD default.logLevel
  logFile := ((flags.logFile.or (environment "BRFK_LOG_FILE")).or
    (keys.text? "log_file")).getD default.logFile
  prompt := ((flags.prompt.or (environment "BRFK_PROMPT")).or
    (keys.text? "prompt")).getD default.prompt

/-- Three layers on top of the default settings go by precedence. -/
theorem withFlags_eq_layered (flags : ConfigFlags) (environment : Environment) (keys : FileKeys) :
    ((default.withFlags keys.given).withFlags environment.given).withFlags flags =
      layered flags environment keys := by
  simp only [withFlags, layered, FileKeys.given, Environment.given, Option.getD_or]

/-- A configuration that a run can be made with. -/
structure Usable (config : Config) : Prop where
  /-- The tape has a cell. -/
  cell : 1 ≤ config.tapeLength
  /-- The input mode is the one that is named. -/
  mode : InputMode.parse? config.inputMode = some config.mode
  /-- There is a log level, and trace records get through if they are asked for. -/
  level : ∃ level, config.level = .ok level ∧ (config.trace = true → level ≤ .trace)
  /-- No runner with it asks for a tape without a cell. -/
  start : ∀ runner : Runner, runner.config = config → ∀ interactive room cancellation,
    (runner.start interactive room cancellation).2 ≠ .error (.build .noCell)

/-- What the check lets through is usable. -/
theorem usable_of_validate {config : Config} (valid : config.validate = .ok ()) :
    config.Usable := by
  obtain ⟨cell, ⟨mode, named⟩, ⟨level, leveled⟩, -⟩ := validate_eq_ok_iff.mp valid
  refine ⟨cell, ?_, ⟨level, leveled, ?_⟩, ?_⟩
  · rw [Config.mode, named]
    rfl
  · intro traced
    exact level_le_trace traced leveled
  · rintro runner rfl interactive room cancellation
    exact runner.start_ne_noCell cell interactive room cancellation

variable {decoders : ConfigDecoders} {keys : ConfigFormat → Bytes → FileKeys}

/-- Resolving succeeds exactly if the file loads, all variables that are set can be read, whatever
lies on top of them, and the merged settings pass the check. -/
theorem resolve_eq_ok_iff (overwrites : decoders.Overwrite keys) {file : Option ConfigFile}
    {environment : Environment} {flags : ConfigFlags} {config : Config} :
    resolve decoders file environment flags = .ok config ↔
      ∃ fileKeys, ConfigFile.Loads decoders keys file fileKeys ∧ environment.Readable ∧
        config = layered flags environment fileKeys ∧ config.validate = .ok () := by
  simp only [resolve, bind_eq_ok_iff, mapError_eq_ok_iff, withEnvironment_eq_ok_iff,
    ofFile_eq_ok_iff overwrites, ← withFlags_eq_layered]
  constructor
  -- The three steps before the check give the three layers.
  · rintro ⟨_, ⟨fileKeys, loads, rfl⟩, _, ⟨readable, rfl⟩, ⟨⟩, valid, same⟩
    cases same
    exact ⟨fileKeys, loads, readable, rfl, valid⟩
  · rintro ⟨fileKeys, loads, readable, rfl, valid⟩
    exact ⟨_, ⟨fileKeys, loads, rfl⟩, _, ⟨readable, rfl⟩, (), valid, rfl⟩

/-- With decoders that overwrite exactly the settings whose keys are present, resolving succeeds
exactly if the file loads, all variables that are set can be read, whatever lies on top of them, and
the merged settings pass the check. Each setting then comes from the first layer that gives it, and
what is resolved is usable. -/
theorem resolve_layers (overwrites : decoders.Overwrite keys) (file : Option ConfigFile)
    (environment : Environment) (flags : ConfigFlags) :
    ((∃ config, resolve decoders file environment flags = .ok config) ↔
      ∃ fileKeys, ConfigFile.Loads decoders keys file fileKeys ∧ environment.Readable ∧
        (layered flags environment fileKeys).validate = .ok ()) ∧
    ∀ config, resolve decoders file environment flags = .ok config →
      (∃ fileKeys, ConfigFile.Loads decoders keys file fileKeys ∧
        config = layered flags environment fileKeys) ∧ config.Usable := by
  refine ⟨⟨?_, ?_⟩, ?_⟩
  -- What is resolved is known, so success and the layers go together.
  · rintro ⟨config, done⟩
    obtain ⟨fileKeys, loads, readable, rfl, valid⟩ := (resolve_eq_ok_iff overwrites).mp done
    exact ⟨fileKeys, loads, readable, valid⟩
  · rintro ⟨fileKeys, loads, readable, valid⟩
    exact ⟨_, (resolve_eq_ok_iff overwrites).mpr ⟨fileKeys, loads, readable, rfl, valid⟩⟩
  · intro config done
    obtain ⟨fileKeys, loads, -, same, valid⟩ := (resolve_eq_ok_iff overwrites).mp done
    exact ⟨⟨fileKeys, loads, same⟩, usable_of_validate valid⟩

end Config

/-- Decoders that know a single TOML text, and what its keys are. -/
def ConfigDecoders.knowing (known : Bytes) (keys : FileKeys) : ConfigDecoders where
  yaml _ config _ := (config, some (.failed []))
  toml settings config text :=
    if text = known then (keys.overwrite settings config, .ok [])
    else (config, .error (.failed []))

/-- Decoders that know a single text overwrite the settings whose keys are present in it. -/
theorem ConfigDecoders.overwrite_knowing (known : Bytes) (keys : FileKeys) :
    (knowing known keys).Overwrite fun _ _ => keys where
  yaml config text taken := by rcases taken with taken | taken <;> cases taken
  toml config text passed taken := by
    by_cases same : text = known
    · simp only [knowing, if_pos same]
    · simp only [knowing, if_neg same] at taken
      cases taken

namespace Config

/-- The text `tape_length = 5`, `debug = true` and `trace = true` on three lines. -/
def mixedText : Bytes := utf8 "tape_length = 5\ndebug = true\ntrace = true\n"

/-- What the keys of that text say. -/
def mixedKeys : FileKeys := fun key =>
  if key = "tape_length" then some (.integer 5)
  else if key = "debug" then some (.truth true)
  else if key = "trace" then some (.truth true)
  else none

/-- A debug variable that says yes, and a log level that is set to nothing. -/
def mixedEnvironment : Environment := fun key =>
  if key = "BRFK_DEBUG" then some (utf8 "1")
  else if key = "BRFK_LOG_LEVEL" then some []
  else none

/-- A debug flag that says no. -/
def mixedFlags : ConfigFlags := { ConfigFlags.none with debug := some false }

/-- A flag that says no hides the variable and the file, a variable that is set to nothing replaces
the default log level, and the rest comes from the file. -/
theorem resolve_layers_mixed :
    (ConfigDecoders.knowing mixedText mixedKeys).Overwrite (fun _ _ => mixedKeys) ∧
    resolve (.knowing mixedText mixedKeys) (some ⟨utf8 "run.toml", .ok mixedText⟩)
        mixedEnvironment mixedFlags =
      .ok { default with tapeLength := 5, trace := true, logLevel := [] } ∧
    { default with tapeLength := 5, trace := true, logLevel := [] } =
      layered mixedFlags mixedEnvironment mixedKeys ∧
    Usable { default with tapeLength := 5, trace := true, logLevel := [] } := by
  have overwrites := ConfigDecoders.overwrite_knowing mixedText mixedKeys
  have resolved : resolve (.knowing mixedText mixedKeys)
      (some ⟨utf8 "run.toml", .ok mixedText⟩) mixedEnvironment mixedFlags =
        .ok { default with tapeLength := 5, trace := true, logLevel := [] } :=
    toOption_eq_some_iff.mp (by decide +kernel)
  obtain ⟨⟨fileKeys, loads, same⟩, usable⟩ := (resolve_layers overwrites _ _ _).2 _ resolved
  -- The decoders read the same keys in every text.
  have named : fileKeys = mixedKeys := by cases loads <;> rfl
  exact ⟨overwrites, resolved, named ▸ same, usable⟩

-- A variable has to be readable even where a flag hides it.
example : (resolve (.knowing [] .empty) none
    (fun key => if key = "BRFK_DEBUG" then some (utf8 "maybe") else none)
    { ConfigFlags.none with debug := some true }).toOption = none := by decide +kernel

end Config

end TapeMachine
