import TapeMachine.Machine.Mode
import TapeMachine.Machine.Writer
import TapeMachine.Program.Opcode

/-! What happens during a run, as far as anyone outside the machine can tell. -/

namespace TapeMachine

/-- One thing that happened. -/
inductive Event where
  /-- An instruction is about to execute: its place and opcode, how many instructions have been
  started with it, and the state that it finds. -/
  | exec (pos : Nat) (opcode : Opcode) (steps pointer : Nat) (cell : UInt8) (mode : Mode)
  /-- A breakpoint executed. -/
  | breakpoint (pos : Nat)
  /-- The machine switched to another mode. -/
  | modeChange (mode : Mode)
  /-- The program put a byte out. -/
  | output (byte : UInt8)
  /-- The program took a byte in. -/
  | input (byte : UInt8)
  /-- The sink was given a chunk of output. -/
  | delivered (delivery : Delivery)
  /-- The user was asked for program input. -/
  | prompted
  /-- The line source handed out a line. -/
  | read (line : Bytes)
  /-- The line source handed out no line. -/
  | readError (message : Bytes)
  /-- An input instruction met the end of the input. -/
  | inputExhausted (pointer : Nat)
  /-- The console met the end of the input before the instruction at a position. -/
  | consoleClosed (pos : Nat)
  /-- The run ended in this state. -/
  | checkpoint (pointer : Nat) (cell : UInt8) (mode : Mode) (steps pending : Nat)
  deriving DecidableEq, Repr

/-- The bytes that the sink took with an event. -/
def Event.sunk : Event → Bytes
  | delivered delivery => delivery.bytes
  | _ => []

end TapeMachine
