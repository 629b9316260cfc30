import TapeMachine.Machine.Mode
import TapeMachine.Machine.Tape
import TapeMachine.Program.Opcode
import TapeMachine.Table
import TapeMachine.Text.Numeral

/-! What the debugger console prints. -/

namespace TapeMachine.Console

/-- The rows of symbols that a code listing shows at most. -/
def codeRows : Nat := 8

/-- The symbols in a full row of a code listing. -/
def codeColumns : Nat := 64

/-- The rows of cells that a memory dump shows at most. -/
def memoryRows : Nat := 8

/-- The cells in a full row of a memory dump. -/
def memoryColumns : Nat := 16

/-- The explanation of the commands. -/
def help : String :=
  "next, n         run the next instruction and stop again\n" ++
  "code, c         list the upcoming instructions\n" ++
  "mem, m          dump the tape around the data pointer\n" ++
  "info, i         show the core state\n" ++
  "exit, quit, q   leave the debugger and keep running\n" ++
  "help, h, ?      show this help"

/-- The prompt before an instruction: its position, the data pointer and its symbol. -/
def prompt (pos pointer : Nat) (opcode : Opcode) : Bytes :=
  utf8 ("(brainfuck " ++ address pos ++ ":" ++ address pointer ++ ":" ++ opcode.symbolText ++ ") ")

/-- The rows of a code listing that starts at a position. -/
def codeListing (listing : Array UInt8) (pos : Nat) : List Bytes :=
  (List.range codeRows).filterMap fun row =>
    let start := pos + row * codeColumns
    if start < listing.size then some (listing.extract start (start + codeColumns)).toList else none

/-- A cell as a dump shows it beside its hexadecimal digits. -/
def gutter (cell : UInt8) : UInt8 :=
  if 0x20 ≤ cell ∧ cell ≤ 0x7e then cell else ascii '.'

/-- One row of a memory dump. -/
def memoryRow (start : Nat) (cells : Bytes) : Bytes :=
  utf8 (address start ++ "  " ++ String.intercalate " " (cells.map hexByte) ++ "  ") ++
    cells.map gutter

/-- The address of the first cell of the row that holds the data pointer. -/
def memoryBase (tape : Tape) : Nat := tape.pointer / memoryColumns * memoryColumns

/-- The rows of a memory dump, from the row that holds the data pointer on. -/
def memoryDump (tape : Tape) : List Bytes :=
  (List.range memoryRows).filterMap fun row =>
    let start := memoryBase tape + row * memoryColumns
    if start < tape.length then some (memoryRow start (tape.window start memoryColumns)) else none

/-- The table that shows the state in front of an instruction. -/
def stateTable (pos : Nat) (opcode : Opcode) (tape : Tape) (mode : Mode) (steps : Nat) : Table where
  title := utf8 "Core State"
  header := ["Pos", "Next", "Pointer", "Cell", "Mode", "Steps"]
  rows := [.cells [
    .text (address pos),
    .text (opcode.symbolText ++ " (" ++ opcode.name ++ ")"),
    .text (address tape.pointer),
    .text ("0x" ++ hexByte tape.cell),
    .number mode.name,
    natCell steps]]

end TapeMachine.Console
