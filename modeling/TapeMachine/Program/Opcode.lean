import TapeMachine.Bytes

/-! The eight instructions, their names and their symbols. -/

namespace TapeMachine

/-- An instruction without a body. -/
inductive Op where
  /-- Moves the data pointer to the next cell. -/
  | moveRight
  /-- Moves the data pointer to the cell before. -/
  | moveLeft
  /-- Adds one to the current cell. -/
  | increment
  /-- Takes one from the current cell. -/
  | decrement
  /-- Writes the current cell to the output. -/
  | output
  /-- Stores a byte of input in the current cell. -/
  | input
  /-- Enters the debugger. -/
  | breakpoint
  deriving DecidableEq, Repr, Inhabited

/-- What an instruction does: an operation of its own, or a loop over a body. -/
inductive Opcode where
  /-- An instruction without a body. -/
  | basic (op : Op)
  /-- Repeats a body while the current cell is not zero. -/
  | loop
  deriving DecidableEq, Repr, Inhabited

/-- The symbol that ends the body of a loop. -/
def loopEnd : UInt8 := ascii ']'

namespace Op

/-- The source byte of an operation. -/
def symbol : Op → UInt8
  | moveRight => ascii '>'
  | moveLeft => ascii '<'
  | increment => ascii '+'
  | decrement => ascii '-'
  | output => ascii '.'
  | input => ascii ','
  | breakpoint => ascii '!'

/-- The operations in the order of their codes. -/
def all : List Op := [moveRight, moveLeft, increment, decrement, output, input, breakpoint]

/-- The operation that a source byte stands for. Brackets and comments stand for none. -/
def ofSymbol? (b : UInt8) : Option Op :=
  all.find? fun op => op.symbol = b

end Op

namespace Opcode

/-- The source byte that starts an instruction. -/
def symbol : Opcode → UInt8
  | basic op => op.symbol
  | loop => ascii '['

/-- A readable name. -/
def name : Opcode → String
  | basic .moveRight => "MoveRight"
  | basic .moveLeft => "MoveLeft"
  | basic .increment => "Increment"
  | basic .decrement => "Decrement"
  | basic .output => "Output"
  | basic .input => "Input"
  | basic .breakpoint => "Breakpoint"
  | loop => "Loop"

/-- All opcodes; the place in this list is the code of an opcode. -/
def all : List Opcode := Op.all.map basic ++ [loop]

/-- The symbol as a text. -/
def symbolText (opcode : Opcode) : String :=
  String.ofList [Char.ofNat opcode.symbol.toNat]

/-- The place of an opcode among all opcodes. -/
def code : Opcode → Nat
  | basic .moveRight => 0
  | basic .moveLeft => 1
  | basic .increment => 2
  | basic .decrement => 3
  | basic .output => 4
  | basic .input => 5
  | basic .breakpoint => 6
  | loop => 7

/-- The opcode with a given code. -/
def ofCode? (code : UInt8) : Option Opcode := all[code.toNat]?

/-- The opcode with a given name. -/
def ofName? (text : String) : Option Opcode := all.find? fun opcode => opcode.name = text

end Opcode

end TapeMachine
