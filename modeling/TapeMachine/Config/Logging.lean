import TapeMachine.Host

/-! The logger that a configuration asks for. -/

namespace TapeMachine

/-- Why there is no logger. -/
inductive LoggingError where
  /-- The settings do not say which. -/
  | config (error : ConfigError)
  /-- The log file cannot be made. -/
  | file (error : FileError)
  deriving DecidableEq, Repr

/-- The wording of a logging error. -/
def LoggingError.message : LoggingError → Bytes
  | config error => error.message
  | file error => utf8 "cannot create log file: " ++ error.message

/-- The logger of a configuration: JSON records for a log file, or else text records for standard
error. -/
def Config.logger (config : Config) : Except ConfigError Logger := do
  let level ← config.level
  if config.logFile = [] then return ⟨level, .text, .stderr⟩
  else return ⟨level, .json, .file config.logFile⟩

/-- Sets the logger of a configuration up: a log file starts empty. -/
def Config.startLogging {m : Type → Type} [Monad m] (config : Config) (host : Host m) :
    m (Except LoggingError Logger) := do
  match config.logger with
  | .error error => return .error (.config error)
  | .ok logger =>
    match logger.channel with
    | .file path =>
      match ← host.createFile path with
      | .ok () => return .ok logger
      | .error error => return .error (.file error)
    | _ => return .ok logger

end TapeMachine
