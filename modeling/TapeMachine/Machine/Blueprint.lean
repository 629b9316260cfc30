import TapeMachine.Machine.Basic

/-! How a machine is built: a program, its tape and its surroundings. -/

namespace TapeMachine

/-- Someone who watches a machine. -/
inductive Observer where
  /-- Writes every event down and may cancel the run. -/
  | recorder
  /-- Counts what the machine does. -/
  | statistics
  /-- Logs every event. -/
  | tracer
  deriving DecidableEq, Repr

/-- What a machine is built from. -/
structure Blueprint where
  /-- The program. -/
  program : Program
  /-- The number of cells asked for. -/
  tapeLength : Int
  /-- How lines become input. -/
  inputMode : InputMode
  /-- Whether the user is asked for input. -/
  prompting : Bool
  /-- Whether the machine starts in the debugger. -/
  debugging : Bool
  /-- Who watches. -/
  observers : List Observer
  /-- How many bytes of output the sink takes. -/
  room : Option Nat
  /-- When the run is cancelled. -/
  cancellation : Cancellation

namespace Blueprint

/-- A machine for a program, with nothing special about it. -/
def ofProgram (program : Program) : Blueprint where
  program := program
  tapeLength := defaultTapeLength
  inputMode := .line
  prompting := false
  debugging := false
  observers := []
  room := none
  cancellation := .never

/-- The machine before its first move. -/
def machine (blueprint : Blueprint) : Machine where
  program := blueprint.program
  listing := blueprint.program.listing.toArray
  inputMode := blueprint.inputMode
  prompting := blueprint.prompting
  code := blueprint.program.code
  loops := []
  tape := .blank blueprint.tapeLength.toNat
  mode := if blueprint.debugging then .debugging else .running
  steps := 0
  pending := []
  writer := .fresh blueprint.room
  cancellation := blueprint.cancellation
  status := .ready
  journal := []

/-- The greatest number of bytes that a memory can be asked for. -/
def memoryLimit : Int := Nat.pow 2 48

/-- Builds the machine. A tape needs a cell and must fit in a memory, and nobody watches twice. -/
def build (blueprint : Blueprint) : Except BuildError Machine :=
  if blueprint.tapeLength < 1 then .error .noCell
  else if memoryLimit < blueprint.tapeLength then .error .tooManyCells
  else if blueprint.observers.eraseDups.length < blueprint.observers.length then
    .error .duplicatedObserver
  else .ok blueprint.machine

end Blueprint

end TapeMachine
