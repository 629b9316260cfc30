import TapeMachine.Config.Basic
import TapeMachine.Text.Integer

/-! Settings that come from environment variables. -/

namespace TapeMachine

/-- The variables of an environment. -/
abbrev Environment := String → Option Bytes

/-- A variable with an unusable value. -/
structure EnvironmentError where
  /-- The variable. -/
  key : String
  /-- What is wrong with its value. -/
  error : ValueError
  deriving DecidableEq, Repr

/-- The wording of the error. -/
def EnvironmentError.message (error : EnvironmentError) : Bytes :=
  utf8 (error.key ++ ": ") ++ error.error.message

/-- The value of a variable, if it is set. -/
def Environment.read {α : Type} (environment : Environment) (key : String)
    (parse : Bytes → Except ValueError α) : Except EnvironmentError (Option α) :=
  match environment key with
  | none => .ok none
  | some text =>
    match parse text with
    | .ok value => .ok (some value)
    | .error error => .error ⟨key, error⟩

/-- The settings with those replaced for which a variable is set, even if it is set to nothing. -/
def Config.withEnvironment (config : Config) (environment : Environment) :
    Except EnvironmentError Config := do
  let tapeLength ← environment.read "BRFK_TAPE_LENGTH" parseDecimal
  let debug ← environment.read "BRFK_DEBUG" parseTruth
  let trace ← environment.read "BRFK_TRACE" parseTruth
  let stats ← environment.read "BRFK_STATS" parseTruth
  return {
    tapeLength := tapeLength.getD config.tapeLength
    inputMode := (environment "BRFK_INPUT_MODE").getD config.inputMode
    debug := debug.getD config.debug
    trace := trace.getD config.trace
    stats := stats.getD config.stats
    logLevel := (environment "BRFK_LOG_LEVEL").getD config.logLevel
    logFile := (environment "BRFK_LOG_FILE").getD config.logFile
    prompt := (environment "BRFK_PROMPT").getD config.prompt }

end TapeMachine
