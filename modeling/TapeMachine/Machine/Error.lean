import TapeMachine.Machine.Source
import TapeMachine.Machine.Tape
import TapeMachine.Program.Opcode
import TapeMachine.Text.Numeral

/-! Why a run failed, and why a machine could not be built. -/

namespace TapeMachine

/-- The wording of a failed instruction. -/
def instructionComplaint (pos : Int) (opcode : Opcode) (pointer : Int) (cause : Bytes) : Bytes :=
  utf8 ("runtime error at " ++ address pos ++ " (" ++ opcode.name ++ ", pointer " ++
    address pointer ++ "): ") ++ cause

/-- The words of a sink that takes no more bytes. -/
def sinkFullMessage : Bytes := utf8 "disk full"

/-- Why a run failed. -/
inductive RunError where
  /-- An instruction moved the data pointer off the tape. -/
  | pointer (pos : Nat) (opcode : Opcode) (place : Nat) (fault : PointerFault)
  /-- The run was cancelled at the start of a loop pass. -/
  | cancelled
  /-- A byte of output could not be written. -/
  | write
  /-- The buffered output could not be written. -/
  | flush
  /-- A line of program input could not be read. -/
  | readInput (cause : SourceError)
  /-- A debugger command could not be read. -/
  | readCommand (cause : SourceError)
  deriving DecidableEq, Repr

/-- The wording of a run error. -/
def RunError.message : RunError → Bytes
  | pointer pos opcode place fault =>
    instructionComplaint pos opcode place (utf8 fault.message)
  | cancelled => cancelledMessage
  | write => utf8 "failed to write output: " ++ sinkFullMessage
  | flush => utf8 "failed to flush output: " ++ sinkFullMessage
  | readInput cause => utf8 "failed to read input: " ++ cause.message
  | readCommand cause => utf8 "failed to read debugger command: " ++ cause.message

/-- Why a machine could not be built. -/
inductive BuildError where
  /-- A tape needs a cell. -/
  | noCell
  /-- A tape has more cells than any memory. -/
  | tooManyCells
  /-- The same observer was attached twice. -/
  | duplicatedObserver
  deriving DecidableEq, Repr

/-- The wording of a build error. -/
def BuildError.message : BuildError → String
  | noCell => "Need at least 1 tape cell"
  | tooManyCells => "runtime error: makeslice: len out of range"
  | duplicatedObserver => "duplicated hook"

end TapeMachine
