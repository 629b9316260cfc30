import TapeMachine.Text.Blank
import TapeMachine.Text.Numeral

/-! The commands of the debugger console. -/

namespace TapeMachine

/-- A command of the debugger console. -/
inductive Command where
  /-- Runs the next instruction and stops again. -/
  | next
  /-- Lists the upcoming instructions. -/
  | code
  /-- Dumps the tape around the data pointer. -/
  | mem
  /-- Leaves the debugger. -/
  | exit
  /-- Shows the state of the machine. -/
  | info
  /-- Shows the commands. -/
  | help
  deriving DecidableEq, Repr

namespace Command

/-- A readable name. -/
def name : Command → String
  | next => "next"
  | code => "code"
  | mem => "mem"
  | exit => "exit"
  | info => "info"
  | help => "help"

/-- The commands in the order of their codes. -/
def all : List Command := [next, code, mem, exit, info, help]

/-- The place of a command among all commands. -/
def index : Command → Nat
  | next => 0
  | code => 1
  | mem => 2
  | exit => 3
  | info => 4
  | help => 5

/-- The name of a code, also of one that stands for no command. -/
def codeName (code : Int) : String := enumName "Command" (all.map name) code

/-- The words that a command may be given by. -/
def words : Command → List String
  | next => ["next", "n"]
  | code => ["code", "c"]
  | mem => ["mem", "m"]
  | exit => ["exit", "quit", "q"]
  | info => ["info", "i"]
  | help => ["help", "h", "?"]

/-- Reads a line of console input; white space around the word is ignored. -/
def parse? (line : Bytes) : Option Command :=
  let word := trimBlank line
  all.find? fun command => command.words.any fun known => utf8 known = word

/-- The complaint about a line that is no command. -/
def complaint (line : Bytes) : Bytes := utf8 "Unable to parse command: " ++ line

end Command

end TapeMachine
