import TapeMachine.Text.Blank
import TapeMachine.Text.Letter
import TapeMachine.Text.Numeral
import TapeMachine.Text.Quoted

/-! The modes of a machine: whether it stops before each instruction, and how lines become input. -/

namespace TapeMachine

/-- Whether the machine stops in the debugger before each instruction. -/
inductive Mode where
  /-- It runs on. -/
  | running
  /-- It stops. -/
  | debugging
  deriving DecidableEq, Repr, Inhabited

namespace Mode

/-- A readable name. -/
def name : Mode → String
  | running => "Running"
  | debugging => "Debugging"

/-- The modes in the order of their codes. -/
def all : List Mode := [running, debugging]

/-- The code of a mode. -/
def code : Mode → Nat
  | running => 0
  | debugging => 1

/-- The name of a code, also of one that stands for no mode. -/
def codeName (code : Int) : String := enumName "Mode" (all.map name) code

end Mode

/-- How input lines become bytes for the input instruction. -/
inductive InputMode where
  /-- The first byte of each line; empty lines are skipped. -/
  | line
  /-- Every byte of each line and a line feed after it. -/
  | stream
  deriving DecidableEq, Repr, Inhabited

namespace InputMode

/-- A readable name. -/
def name : InputMode → String
  | line => "line"
  | stream => "stream"

/-- The input modes in the order of their codes. -/
def all : List InputMode := [line, stream]

/-- The code of an input mode. -/
def code : InputMode → Nat
  | line => 0
  | stream => 1

/-- The input mode with a code; any other code acts as line input. -/
def ofCode (code : Int) : InputMode := if code = 1 then stream else line

/-- The name of a code, also of one that stands for no input mode. -/
def codeName (code : Int) : String := enumName "InputMode" (all.map name) code

/-- Reads the name of an input mode; case and surrounding white space do not matter, and an empty
text means line input. -/
def parse? (text : Bytes) : Option InputMode :=
  let word := lowerCase (trimBlank text)
  if word = [] ∨ word = utf8 "line" then some line
  else if word = utf8 "stream" then some stream
  else none

/-- The complaint about a text that names no input mode. -/
def complaint (text : Bytes) : Bytes := utf8 "unknown input mode " ++ quoted text

end InputMode

end TapeMachine
