import TapeMachine.CommandLine.Command
import TapeMachine.Config.Logging
import TapeMachine.Lint.Report
import TapeMachine.Runner

/-! What the commands do. -/

namespace TapeMachine.CommandLine

/-- Why a command failed. -/
inductive Failure where
  /-- The command line cannot be understood. -/
  | usage (error : UsageError)
  /-- There are no usable settings. -/
  | resolve (error : ResolveError)
  /-- The log cannot be set up. -/
  | logging (error : LoggingError)
  /-- The program cannot be loaded. -/
  | load (error : LoadError)
  /-- The run cannot begin. -/
  | start (error : StartError)
  /-- The run failed. -/
  | run (error : RunError)
  /-- The report cannot be handed out. -/
  | report (error : ReportError)
  /-- The report holds errors. -/
  | lint
  deriving DecidableEq, Repr

/-- The wording of a failure. -/
def Failure.message : Failure → Bytes
  | usage error => error.message
  | resolve error => error.message
  | logging error => error.message
  | load error => error.message
  | start error => utf8 error.message
  | run error => error.message
  | report error => error.message
  | lint => utf8 "lint found errors"

/-- Whether a failure stops the whole program instead of being reported. -/
def Failure.isFatal : Failure → Bool
  | resolve (.file error) => error.isFatal
  | start (.build _) => true
  | _ => false

/-- The name of the runner in the log. -/
def runnerName : Bytes := utf8 "Driver"

/-- Doing what a command says, which can fail. -/
abbrev Action (m : Type → Type) := ExceptT Failure m

variable {m : Type → Type} [Monad m]

/-- Does something on the host that can fail. -/
def attempt {ε α : Type} (failure : ε → Failure) (action : m (Except ε α)) : Action m α :=
  ExceptT.mk do return (← action).mapError failure

/-- The settings of a command line. -/
def settle (decoders : ConfigDecoders) (host : Host m) (options : Options) :
    Action m Config := do
  let file ←
    if options.configPath = [] then pure none
    else do
      let content ← (host.readFile options.configPath : m (Except FileError Bytes))
      pure (some (ConfigFile.mk options.configPath content))
  attempt .resolve (pure (Config.resolve decoders file host.environment options.settings))

/-- Runs the program in a file. -/
def runProgram (host : Host m) (config : Config) (logger : Logger) (path : Bytes) :
    Action m Unit := do
  let loaded ← attempt .load ((Runner.fresh runnerName config).loadFile host (some logger) path)
  let (_, ended) ← (loaded.run host (some logger) .never : m (Runner × Except StartError Machine))
  let machine ← attempt .start (pure ended)
  match machine.error? with
  | some error => throw (.run error)
  | none => return ()

/-- The program in a file, without a word in the log. -/
def readProgram (host : Host m) (path : Bytes) : Action m Program := do
  let source ← attempt (fun error => .load (.file error)) (host.readFile path)
  attempt (fun error => .load (.program path error)) (pure (compile source))

/-- Checks the program in a file, and shows and perhaps saves the report. -/
def verifyProgram (host : Host m) (path output : Bytes) : Action m Unit := do
  let program ← readProgram host path
  let report := Report.ofProgram path program
  (host.send [.out report.text] : m Unit)
  if output ≠ [] then attempt .report (report.save host output)
  if report.hasErrors then throw .lint

/-- Explains the command that is named by arguments, or the whole program. -/
def explain (host : Host m) (arguments : List Bytes) : Action m Unit :=
  ((host.send [.out (select arguments).1.helpText] : m Unit) : Action m Unit)

/-- Checks the number of arguments of a command. -/
def checkCount (command : Subcommand) (arguments : List Bytes) : Except UsageError Unit :=
  match command with
  | .help => .ok ()
  | _ => if arguments.length = 1 then .ok () else .error (.argumentCount 1 arguments.length)

/-- Does what a command line says. Whatever is wrong with the line itself is found before help is
given, and help is given before anything else is looked at. -/
def perform (decoders : ConfigDecoders) (host : Host m) (line : List Bytes) :
    Action m Unit := do
  let (command, rest) := select line
  let parsed ← attempt .usage (pure (parse command.flags rest))
  if parsed.options.help then
    (host.send [.out command.helpText] : m Unit)
  else
    attempt .usage (pure (checkCount command parsed.arguments))
    let config ← settle decoders host parsed.options
    let logger ← attempt .logging (config.startLogging host)
    let path := parsed.arguments.headD []
    match command with
    | .run => runProgram host config logger path
    | .verify => verifyProgram host path parsed.options.output
    | .help => explain host parsed.arguments

/-- Does what a command line says, and reports a failure on standard error, if it is not fatal. -/
def execute (decoders : ConfigDecoders) (host : Host m) (line : List Bytes) :
    m (Except Failure Unit) := do
  match ← (perform decoders host line).run with
  | .ok () => return .ok ()
  | .error failure =>
    if !failure.isFatal then
      host.send [.err (utf8 "Error: " ++ failure.message ++ [newline])]
    return .error failure

/-- The exit code of a command line. -/
def exitCode : Except Failure Unit → Nat
  | .ok () => 0
  | .error failure => if failure.isFatal then 2 else 1

end TapeMachine.CommandLine
