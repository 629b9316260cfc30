import TapeMachine.Machine.Event
import TapeMachine.Table

/-! Statistics of a run. -/

namespace TapeMachine

/-- Counts of what a machine did, in unsigned 64-bit words. -/
structure Stats where
  /-- How often each opcode was executed, in the order of the opcodes. -/
  executed : Array UInt64
  /-- How many breakpoints were hit. -/
  breakpoints : UInt64
  /-- How often the mode changed. -/
  modeChanges : UInt64
  /-- How many bytes the program took in. -/
  bytesIn : UInt64
  /-- How many bytes the program put out. -/
  bytesOut : UInt64
  deriving DecidableEq, Repr

namespace Stats

/-- Nothing counted. -/
def zero : Stats := ⟨Array.replicate 8 0, 0, 0, 0, 0⟩

/-- How often an opcode was executed. -/
def count (stats : Stats) (opcode : Opcode) : UInt64 := stats.executed.getD opcode.code 0

/-- The same counts, but for one opcode. -/
def setCount (stats : Stats) (opcode : Opcode) (count : UInt64) : Stats :=
  { stats with executed := stats.executed.setIfInBounds opcode.code count }

/-- Counts an event. -/
def observe (stats : Stats) : Event → Stats
  | .exec _ opcode _ _ _ _ => stats.setCount opcode (stats.count opcode + 1)
  | .breakpoint _ => { stats with breakpoints := stats.breakpoints + 1 }
  | .modeChange _ => { stats with modeChanges := stats.modeChanges + 1 }
  | .output _ => { stats with bytesOut := stats.bytesOut + 1 }
  | .input _ => { stats with bytesIn := stats.bytesIn + 1 }
  | _ => stats

/-- Counts events. -/
def ofEvents (events : List Event) : Stats := events.foldl observe zero

/-- The number of executed instructions. -/
def total (stats : Stats) : UInt64 := stats.executed.foldl (· + ·) 0

/-- A one-line summary. -/
def summary (stats : Stats) : String :=
  decimal stats.total.toNat ++ " instructions, " ++ decimal stats.bytesIn.toNat ++
    " bytes in, " ++ decimal stats.bytesOut.toNat ++ " bytes out"

/-- The counts as a table. -/
def table (stats : Stats) : Table where
  title := utf8 "Execution Statistics"
  header := ["Instruction", "Symbol", "Executed"]
  rows :=
    (Opcode.all.map fun opcode => .cells
      [.text opcode.name, .text opcode.symbolText, natCell (stats.count opcode).toNat]) ++
    [.rule,
     .cells [.text "Total", .text "", natCell stats.total.toNat],
     .cells [.text "Breakpoints hit", .text "", natCell stats.breakpoints.toNat],
     .cells [.text "Mode changes", .text "", natCell stats.modeChanges.toNat],
     .cells [.text "Bytes in", .text "", natCell stats.bytesIn.toNat],
     .cells [.text "Bytes out", .text "", natCell stats.bytesOut.toNat]]

end Stats

end TapeMachine
