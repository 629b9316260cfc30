import TapeMachine.Log.Record
import TapeMachine.Machine.Mode
import TapeMachine.Machine.Tape
import TapeMachine.Text.Quoted

/-! The settings of a run. -/

namespace TapeMachine

/-- The settings of a run, as they are written down; nothing promises that they are usable. -/
structure Config where
  /-- The number of cells on the tape. -/
  tapeLength : Int
  /-- The name of an input mode. -/
  inputMode : Bytes
  /-- Whether the machine starts in the debugger. -/
  debug : Bool
  /-- Whether every event is logged. -/
  trace : Bool
  /-- Whether statistics are printed after a run. -/
  stats : Bool
  /-- The name of a log level. -/
  logLevel : Bytes
  /-- The file that the log goes to; if empty, it goes to standard error. -/
  logFile : Bytes
  /-- When the user is asked for input. -/
  prompt : Bytes
  deriving DecidableEq, Repr

/-- Why a configuration cannot be used. -/
inductive ConfigError where
  /-- The tape would have no cell. -/
  | tapeLength (value : Int)
  /-- The input mode is unknown. -/
  | inputMode (value : Bytes)
  /-- The log level is unknown. -/
  | logLevel (value : Bytes)
  /-- The prompt setting is unknown. -/
  | prompt (value : Bytes)
  deriving DecidableEq, Repr

/-- The wording of a configuration error. -/
def ConfigError.message : ConfigError → Bytes
  | tapeLength value => utf8 ("tape length must be positive, got " ++ decimal value)
  | inputMode value => InputMode.complaint value
  | logLevel value => utf8 "unknown log level " ++ quoted value
  | prompt value => utf8 "unknown prompt setting " ++ quoted value

namespace Config

/-- The settings when nothing else is said. -/
def default : Config where
  tapeLength := defaultTapeLength
  inputMode := utf8 "line"
  debug := false
  trace := false
  stats := false
  logLevel := utf8 "warn"
  logFile := []
  prompt := utf8 "auto"

/-- The names of the log levels; case and surrounding white space do not matter. -/
def levelNames : List (String × LogLevel) :=
  [("debug", .debug), ("info", .info), ("trace", .trace), ("", .warn), ("warn", .warn),
   ("warning", .warn), ("error", .error)]

/-- The log level. Tracing lowers it so far that trace records get through. -/
def level (config : Config) : Except ConfigError LogLevel :=
  let word := lowerCase (trimBlank config.logLevel)
  match levelNames.find? fun (name, _) => utf8 name = word with
  | none => .error (.logLevel config.logLevel)
  | some (_, level) => .ok (if config.trace then min level .trace else level)

/-- The input mode; an unknown one falls back to line input. -/
def mode (config : Config) : InputMode := (InputMode.parse? config.inputMode).getD .line

/-- The known prompt settings. -/
def promptSettings : List String := ["", "auto", "always", "never"]

/-- Whether the user is asked for input, given whether there is a user at a terminal. -/
def showPrompt (config : Config) (interactive : Bool) : Bool :=
  if config.prompt = utf8 "always" then true
  else if config.prompt = utf8 "never" then false
  else interactive

/-- Checks every setting; the first that is not usable is reported. -/
def validate (config : Config) : Except ConfigError Unit := do
  if config.tapeLength < 1 then throw (.tapeLength config.tapeLength)
  if (InputMode.parse? config.inputMode).isNone then throw (.inputMode config.inputMode)
  let _ ← config.level
  unless promptSettings.any fun known => utf8 known = config.prompt do
    throw (.prompt config.prompt)

end Config

end TapeMachine
