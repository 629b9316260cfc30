import TapeMachine.Config.Environment
import TapeMachine.Config.File

/-! The settings of a command: a file, the environment and flags in layers. -/

namespace TapeMachine

/-- The settings that a command line can give. -/
structure ConfigFlags where
  /-- The number of cells on the tape. -/
  tapeLength : Option Int
  /-- The name of an input mode. -/
  inputMode : Option Bytes
  /-- Whether the machine starts in the debugger. -/
  debug : Option Bool
  /-- Whether every event is logged. -/
  trace : Option Bool
  /-- Whether statistics are printed after a run. -/
  stats : Option Bool
  /-- The name of a log level. -/
  logLevel : Option Bytes
  /-- The file that the log goes to. -/
  logFile : Option Bytes
  /-- When the user is asked for input. -/
  prompt : Option Bytes
  deriving DecidableEq, Repr

/-- A command line that gives none of them. -/
def ConfigFlags.none : ConfigFlags where
  tapeLength := Option.none
  inputMode := Option.none
  debug := Option.none
  trace := Option.none
  stats := Option.none
  logLevel := Option.none
  logFile := Option.none
  prompt := Option.none

/-- Why a command has no settings. -/
inductive ResolveError where
  /-- The configuration file gives none. -/
  | file (error : ConfigFileError)
  /-- A variable has an unusable value. -/
  | environment (error : EnvironmentError)
  /-- The settings are not usable. -/
  | config (error : ConfigError)
  deriving DecidableEq, Repr

/-- The wording of the error. -/
def ResolveError.message : ResolveError → Bytes
  | file error => error.message
  | environment error => error.message
  | config error => error.message

/-- A configuration file: its path, and what reading it gave. -/
structure ConfigFile where
  /-- The path. -/
  path : Bytes
  /-- The content, or why it could not be read. -/
  content : Except FileError Bytes

namespace Config

/-- The settings with those replaced that the command line gives. -/
def withFlags (config : Config) (flags : ConfigFlags) : Config where
  tapeLength := flags.tapeLength.getD config.tapeLength
  inputMode := flags.inputMode.getD config.inputMode
  debug := flags.debug.getD config.debug
  trace := flags.trace.getD config.trace
  stats := flags.stats.getD config.stats
  logLevel := flags.logLevel.getD config.logLevel
  logFile := flags.logFile.getD config.logFile
  prompt := flags.prompt.getD config.prompt

/-- The settings of a file, if there is one, on top of the default ones. -/
def ofFile (decoders : ConfigDecoders) (file : Option ConfigFile) :
    Except ConfigFileError Config :=
  match file with
  | none => .ok default
  | some file => default.withFile decoders file.path file.content

/-- The settings of a command. The environment overrides the file, the flags override both, and the
result has to be usable. -/
def resolve (decoders : ConfigDecoders) (file : Option ConfigFile) (environment : Environment)
    (flags : ConfigFlags) : Except ResolveError Config := do
  let fromFile ← (ofFile decoders file).mapError .file
  let fromEnvironment ← (fromFile.withEnvironment environment).mapError .environment
  let config := fromEnvironment.withFlags flags
  config.validate.mapError .config
  return config

end Config

end TapeMachine
