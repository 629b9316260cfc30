import TapeMachine.Host
import TapeMachine.Log.Trace
import TapeMachine.Machine.Blueprint
import TapeMachine.Program.Compile

/-! A runner loads programs and runs them with one configuration. -/

namespace TapeMachine

/-- Why a program could not be loaded. -/
inductive LoadError where
  /-- Its file could not be read. -/
  | file (error : FileError)
  /-- It could not be compiled. -/
  | program (name : Bytes) (error : CompileError)
  deriving DecidableEq, Repr

/-- The wording of a load error. -/
def LoadError.message : LoadError → Bytes
  | file error => utf8 "cannot read program: " ++ error.message
  | program name error => name ++ utf8 (": " ++ error.message)

/-- Why a runner has nothing to show for a run. -/
inductive StartError where
  /-- No program has been loaded. -/
  | noProgram
  /-- The machine could not be built. -/
  | build (error : BuildError)
  deriving DecidableEq, Repr

/-- The wording of a start error. -/
def StartError.message : StartError → String
  | noProgram => "no program loaded"
  | build error => error.message

/-- A program under the name that it was loaded by. -/
structure LoadedProgram where
  /-- The name. -/
  name : Bytes
  /-- The program. -/
  program : Program
  deriving DecidableEq, Repr

/-- A runner between two calls. -/
structure Runner where
  /-- Its name in the log. -/
  name : Bytes
  /-- The settings of its runs. -/
  config : Config
  /-- The program that the last successful load has left. -/
  loaded : Option LoadedProgram
  /-- The statistics of the last run. -/
  stats : Option Stats

namespace Runner

/-- A runner without a program. -/
def fresh (name : Bytes) (config : Config) : Runner := ⟨name, config, none, none⟩

/-- The loaded program; the empty one before the first load. -/
def program (runner : Runner) : Program :=
  match runner.loaded with
  | some loaded => loaded.program
  | none => .empty

/-- The log record of a loaded program. -/
def loadRecord (runner : Runner) (loaded : LoadedProgram) : LogRecord :=
  .of .info "ProgramLoaded"
    [("Driver", .text runner.name), ("Name", .text loaded.name),
     ("Instructions", .nat loaded.program.instructions),
     ("MaxDepth", .nat loaded.program.maxDepth)]

/-- Compiles a source and keeps it as the loaded program. -/
def load (runner : Runner) (name source : Bytes) : Except LoadError (Runner × LogRecord) :=
  match compile source with
  | .error error => .error (.program name error)
  | .ok program =>
    let loaded : LoadedProgram := ⟨name, program⟩
    .ok ({ runner with loaded := some loaded }, runner.loadRecord loaded)

/-- Who watches the runs. -/
def observers (config : Config) : List Observer :=
  if config.trace then [.statistics, .tracer] else [.statistics]

/-- What the machine of a run is built from. -/
def blueprint (runner : Runner) (interactive : Bool) (room : Option Nat)
    (cancellation : Cancellation) : Blueprint where
  program := runner.program
  tapeLength := runner.config.tapeLength
  inputMode := runner.config.mode
  prompting := runner.config.showPrompt interactive
  debugging := runner.config.debug
  observers := observers runner.config
  room := room
  cancellation := cancellation

/-- Begins a run with empty statistics. -/
def start (runner : Runner) (interactive : Bool) (room : Option Nat)
    (cancellation : Cancellation) : Runner × Except StartError Machine :=
  match runner.loaded with
  | none => (runner, .error .noProgram)
  | some _ =>
    ({ runner with stats := some .zero },
      (runner.blueprint interactive room cancellation).build.mapError .build)

/-- What an event of a run shows, and where. -/
def messages (config : Config) (logger : Option Logger) (event : Event) : List Message :=
  match event with
  | .delivered delivery => [.out delivery.bytes]
  | .prompted => [.err (utf8 "> ")]
  | event =>
    match event.logRecord? config.trace with
    | some record => record.messages logger
    | none => []

/-- An error as a value in the log. -/
def errorValue : Option RunError → LogValue
  | none => .absent
  | some error => .text error.message

/-- The log record of a finished run. -/
def finishRecord (runner : Runner) (machine : Machine) : LogRecord :=
  .of .info "RunFinished"
    [("Driver", .text runner.name), ("Name", .text ((runner.loaded.map (·.name)).getD [])),
     ("Steps", .nat machine.steps), ("Err", errorValue machine.error?)]

/-- What a finished run leaves: its statistics, and the last texts about it. -/
def finish (runner : Runner) (logger : Option Logger) (stats : Stats) (machine : Machine) :
    Runner × List Message :=
  let shown :=
    if runner.config.stats then [Message.err (stats.table.render ++ [newline])] else []
  ({ runner with stats := some stats }, (runner.finishRecord machine).messages logger ++ shown)

/-- Loads a program and logs that. -/
def loadSource {m : Type → Type} [Monad m] (runner : Runner) (host : Host m)
    (logger : Option Logger) (name source : Bytes) : m (Except LoadError Runner) := do
  match runner.load name source with
  | .error error => return .error error
  | .ok (runner, record) =>
    host.send (record.messages logger)
    return .ok runner

/-- Loads the program in a file and logs that. -/
def loadFile {m : Type → Type} [Monad m] (runner : Runner) (host : Host m)
    (logger : Option Logger) (path : Bytes) : m (Except LoadError Runner) := do
  match ← host.readFile path with
  | .error error => return .error (.file error)
  | .ok source => runner.loadSource host logger path source

/-- Runs the loaded program to its end. -/
def run {m : Type → Type} [Monad m] (runner : Runner) (host : Host m) (logger : Option Logger)
    (cancellation : Cancellation) : m (Runner × Except StartError Machine) := do
  match runner.start host.interactive host.room cancellation with
  | (runner, .error error) => return (runner, .error error)
  | (runner, .ok machine) =>
    let (machine, stats) ← host.run machine (Runner.messages runner.config logger)
    let (runner, last) := runner.finish logger stats machine
    host.send last
    return (runner, .ok machine)

end Runner

end TapeMachine
