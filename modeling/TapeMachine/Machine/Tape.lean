import TapeMachine.Bytes

/-! The tape: a fixed number of byte cells and a data pointer into them. -/

namespace TapeMachine

/-- The cells and the data pointer. -/
structure Tape where
  /-- The cells; their number never changes. -/
  cells : Array UInt8
  /-- The address of the current cell. -/
  pointer : Nat
  deriving DecidableEq, Repr

/-- Why the data pointer could not move. -/
inductive PointerFault where
  /-- There is no cell before the first. -/
  | underflow
  /-- There is no cell behind the last. -/
  | overflow
  deriving DecidableEq, Repr

/-- The wording of a pointer fault. -/
def PointerFault.message : PointerFault → String
  | underflow => "data pointer moved below the start of the tape"
  | overflow => "data pointer moved past the end of the tape"

/-- The number of cells unless another is asked for. -/
def defaultTapeLength : Nat := 0xf000

namespace Tape

/-- A tape of zeros with the pointer on its first cell. -/
def blank (length : Nat) : Tape := ⟨Array.replicate length 0, 0⟩

/-- The number of cells. -/
def length (tape : Tape) : Nat := tape.cells.size

/-- The current cell. -/
def cell (tape : Tape) : UInt8 := tape.cells.getD tape.pointer 0

/-- Changes the current cell. -/
def write (tape : Tape) (value : UInt8) : Tape :=
  { tape with cells := tape.cells.setIfInBounds tape.pointer value }

/-- Moves the pointer to the next cell. -/
def moveRight (tape : Tape) : Except PointerFault Tape :=
  if tape.pointer + 1 < tape.length then .ok { tape with pointer := tape.pointer + 1 }
  else .error .overflow

/-- Moves the pointer to the cell before. -/
def moveLeft (tape : Tape) : Except PointerFault Tape :=
  if 0 < tape.pointer then .ok { tape with pointer := tape.pointer - 1 }
  else .error .underflow

/-- The cells from an address on, at most `size` of them. -/
def window (tape : Tape) (start size : Nat) : Bytes :=
  (tape.cells.extract start (start + size)).toList

/-- The non-zero cells with their addresses. -/
def nonzero (tape : Tape) : List (Nat × UInt8) :=
  (tape.cells.foldl (fun (address, found) value =>
    (address + 1, if value = 0 then found else (address, value) :: found))
    ((0, []) : Nat × List (Nat × UInt8))).2.reverse

end Tape

/-- A number as a signed 64-bit word holds it. -/
def wrap64 (n : Int) : Int := n.bmod (Nat.pow 2 64)

/-- The end of a memory window does not fit in a signed 64-bit word. -/
inductive MemoryFault where
  /-- The cells asked for cannot be counted. -/
  | unaddressable
  deriving DecidableEq, Repr

/-- The wording of a memory fault. -/
def MemoryFault.message : MemoryFault → String
  | unaddressable => "runtime error: makeslice: len out of range"

/-- A copy of `size` cells from an address on, cut short at the end of the tape.

There is nothing to copy from an address outside the tape, or when no cell is asked for. The end
of the window is computed in a signed 64-bit word before it is cut; a window that wraps around
cannot be copied. -/
def Tape.read (tape : Tape) (address size : Int) : Except MemoryFault (Option Bytes) :=
  if address < 0 ∨ (tape.length : Int) ≤ address ∨ size ≤ 0 then .ok none
  else
    let stop := min (wrap64 (address + size)) tape.length
    let count := wrap64 (stop - address)
    if count < 0 ∨ (tape.length : Int) < count then .error .unaddressable
    else .ok (some (tape.window address.toNat count.toNat))

end TapeMachine
