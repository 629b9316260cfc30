import TapeMachine.Machine.Command
import TapeMachine.Machine.Console
import TapeMachine.Machine.Error
import TapeMachine.Machine.Event
import TapeMachine.Machine.Source
import TapeMachine.Machine.Tape
import TapeMachine.Machine.Writer
import TapeMachine.Program.Code

/-! The machine: it walks the code of one program, one small move at a time, and writes down in its
journal what happens. -/

namespace TapeMachine

/-- When a run is cancelled. -/
structure Cancellation where
  /-- Whether it has been cancelled. -/
  cancelled : Bool
  /-- Cancel when the instruction with this count starts. -/
  atStep : Option Nat
  /-- The checks that may still pass; the next one after them cancels. -/
  checksLeft : Option Nat
  deriving DecidableEq, Repr

namespace Cancellation

/-- A run that nobody cancels. -/
def never : Cancellation := ⟨false, none, none⟩

/-- The instruction with a count starts. -/
def start (cancellation : Cancellation) (steps : Nat) : Cancellation :=
  if cancellation.atStep = some steps then { cancellation with cancelled := true }
  else cancellation

/-- A loop pass asks whether it may begin. -/
def check (cancellation : Cancellation) : Cancellation :=
  match cancellation.checksLeft with
  | none => cancellation
  | some 0 => { cancellation with cancelled := true }
  | some (left + 1) => { cancellation with checksLeft := some left }

end Cancellation

/-- What the machine does next. -/
inductive Status where
  /-- It looks at the next instruction. -/
  | ready
  /-- The console waits for a command in front of the next instruction. -/
  | stopped
  /-- The input instruction in front of it waits for a line. -/
  | asking
  /-- The run is over, with an error or without. -/
  | halted (error : Option RunError)
  deriving DecidableEq, Repr

/-- A loop that is being executed. -/
structure ActiveLoop where
  /-- Its body. -/
  body : Code
  /-- What follows it. -/
  rest : Code
  deriving DecidableEq, Repr

/-- The machine with everything that its next moves depend on. -/
structure Machine where
  /-- The program. -/
  program : Program
  /-- The listing of the program. -/
  listing : Array UInt8
  /-- How lines become input. -/
  inputMode : InputMode
  /-- Whether the user is asked for input. -/
  prompting : Bool
  /-- What is left of the innermost sequence. -/
  code : Code
  /-- The loops around it, innermost first. -/
  loops : List ActiveLoop
  /-- The tape. -/
  tape : Tape
  /-- Whether it stops before each instruction. -/
  mode : Mode
  /-- The number of instructions started. -/
  steps : Nat
  /-- The bytes of the current line that stream input has not used yet. -/
  pending : Bytes
  /-- The output. -/
  writer : Writer
  /-- When the run is cancelled. -/
  cancellation : Cancellation
  /-- What it does next. -/
  status : Status
  /-- What has happened, latest first. -/
  journal : List Event
  deriving Repr

namespace Machine

/-- Writes an event down. -/
def record (machine : Machine) (event : Event) : Machine :=
  { machine with journal := event :: machine.journal }

/-- Takes over a writer and what it has delivered. -/
def deliver (machine : Machine) (written : Writer × Option Delivery) : Machine :=
  { machine with
    writer := written.1
    journal := match written.2 with
      | none => machine.journal
      | some delivery => .delivered delivery :: machine.journal }

/-- Empties the output buffer. -/
def flush (machine : Machine) : Machine := machine.deliver machine.writer.flush

/-- Adds a byte to the output. -/
def put (machine : Machine) (byte : UInt8) : Machine := machine.deliver (machine.writer.put byte)

/-- Adds bytes to the output. -/
def print (machine : Machine) (bytes : Bytes) : Machine := bytes.foldl put machine

/-- Adds a line to the output. -/
def printLine (machine : Machine) (bytes : Bytes) : Machine := (machine.print bytes).put newline

/-- Adds lines to the output. -/
def printLines (machine : Machine) (lines : List Bytes) : Machine := lines.foldl printLine machine

/-- Switches to a mode; nothing happens if it is the current one. -/
def setMode (machine : Machine) (mode : Mode) : Machine :=
  if machine.mode = mode then machine
  else { machine with mode := mode }.record (.modeChange mode)

/-- Ends the run: flushes the output, and reports a failure to do so unless the run has already
failed. -/
def finish (machine : Machine) (error : Option RunError) : Machine :=
  let flushed := machine.flush
  let error := if error.isNone && flushed.writer.failed then some .flush else error
  let tape := flushed.tape
  { flushed with status := .halted error }.record
    (.checkpoint tape.pointer tape.cell flushed.mode flushed.steps flushed.pending.length)

/-- Stops in the console in front of an instruction. -/
def stop (machine : Machine) (pos : Nat) (opcode : Opcode) : Machine :=
  let prompted := (machine.print (Console.prompt pos machine.tape.pointer opcode)).flush
  if prompted.writer.failed then prompted.finish (some .flush)
  else { prompted with status := .stopped }

/-- Waits for a line of program input. -/
def ask (machine : Machine) : Machine :=
  let flushed := machine.flush
  if flushed.writer.failed then flushed.finish (some .flush)
  else
    let prompted := if flushed.prompting then flushed.record .prompted else flushed
    { prompted with status := .asking }

/-- Goes on with the code behind an instruction. -/
def proceed (machine : Machine) (rest : Code) : Machine :=
  { machine with code := rest, status := .ready }

/-- Stores a byte of input and goes on. -/
def store (machine : Machine) (byte : UInt8) (rest : Code) : Machine :=
  ({ machine with tape := machine.tape.write byte }.record (.input byte)).proceed rest

/-- Moves the data pointer and goes on, or ends the run. -/
def move (machine : Machine) (pos : Nat) (action : Op) (moved : Except PointerFault Tape)
    (rest : Code) : Machine :=
  match moved with
  | .ok tape => { machine with tape := tape }.proceed rest
  | .error fault =>
    machine.finish (some (.pointer pos (.basic action) machine.tape.pointer fault))

/-- Puts the current cell out and goes on. The debugger keeps each byte on a line of its own. -/
def emit (machine : Machine) (rest : Code) : Machine :=
  let byte := machine.tape.cell
  let written := machine.put byte
  let written :=
    if !written.writer.failed && written.mode = .debugging then written.put newline else written
  if written.writer.failed then written.finish (some .write)
  else (written.record (.output byte)).proceed rest

/-- Takes a byte of input: a pending one at once, or else from the next line. -/
def takeInput (machine : Machine) (rest : Code) : Machine :=
  match machine.pending with
  | byte :: pending => { machine with pending := pending }.store byte rest
  | [] => machine.ask

/-- Does what an operation says. -/
def operate (machine : Machine) (pos : Nat) (action : Op) (rest : Code) : Machine :=
  match action with
  | .moveRight => machine.move pos action machine.tape.moveRight rest
  | .moveLeft => machine.move pos action machine.tape.moveLeft rest
  | .increment =>
    { machine with tape := machine.tape.write (machine.tape.cell + 1) }.proceed rest
  | .decrement =>
    { machine with tape := machine.tape.write (machine.tape.cell - 1) }.proceed rest
  | .output => machine.emit rest
  | .input => machine.takeInput rest
  | .breakpoint => ((machine.record (.breakpoint pos)).setMode .debugging).proceed rest

/-- Counts an instruction that starts. -/
def begin (machine : Machine) (pos : Nat) (opcode : Opcode) : Machine :=
  let steps := machine.steps + 1
  { machine with
    steps := steps
    cancellation := machine.cancellation.start steps
    journal := .exec pos opcode steps machine.tape.pointer machine.tape.cell machine.mode ::
      machine.journal }

/-- Executes the next instruction. A loop is entered with nothing left of its body, so that its
test comes next. -/
def execute (machine : Machine) : Machine :=
  match machine.code with
  | .done => machine
  | .op pos action rest => (machine.begin pos (.basic action)).operate pos action rest
  | .loop pos body rest =>
    { machine.begin pos .loop with
      code := .done, loops := ⟨body, rest⟩ :: machine.loops, status := .ready }

/-- Tests the innermost loop: another pass, or on to what follows it. -/
def test (machine : Machine) (innermost : ActiveLoop) (outer : List ActiveLoop) : Machine :=
  if machine.tape.cell = 0 then { machine with code := innermost.rest, loops := outer }
  else
    let checked := { machine with cancellation := machine.cancellation.check }
    if checked.cancellation.cancelled then checked.finish (some .cancelled)
    else { checked with code := innermost.body }

/-- The move of a machine that waits for nobody. -/
def advance (machine : Machine) : Machine :=
  match machine.code with
  | .done =>
    match machine.loops with
    | [] => machine.finish none
    | innermost :: outer => machine.test innermost outer
  | .op pos action _ =>
    if machine.mode = .debugging then machine.stop pos (.basic action) else machine.execute
  | .loop pos _ _ =>
    if machine.mode = .debugging then machine.stop pos .loop else machine.execute

/-- Writes down what the line source handed out. -/
def recordEntry (machine : Machine) : Entry → Machine
  | .line text => machine.record (.read text)
  | .ended report => machine.record (.readError report)
  | .failed reason => machine.record (.readError reason)
  | .cancelled => machine.record (.readError cancelledMessage)

/-- Notes that the run has been cancelled. -/
def cancel (machine : Machine) : Machine :=
  { machine with cancellation := { machine.cancellation with cancelled := true } }

/-- The input instruction in front of `rest` gets what the line source handed out. -/
def receiveInput (machine : Machine) (rest : Code) : Entry → Machine
  | .line text =>
    match machine.inputMode, text with
    | .stream, [] => machine.store newline rest
    | .stream, byte :: more => { machine with pending := more ++ [newline] }.store byte rest
    | .line, [] => machine.ask
    | .line, byte :: _ => machine.store byte rest
  | .ended _ => (machine.record (.inputExhausted machine.tape.pointer)).proceed rest
  | .failed reason => machine.finish (some (.readInput (.failed reason)))
  | .cancelled => machine.cancel.finish (some (.readInput .cancelled))

/-- Answers a command that leaves the machine stopped. -/
def answer (machine : Machine) (pos : Nat) (opcode : Opcode) : Command → Machine
  | .code => machine.printLines (Console.codeListing machine.listing pos)
  | .mem => machine.printLines (Console.memoryDump machine.tape)
  | .info => machine.printLine
      (Console.stateTable pos opcode machine.tape machine.mode machine.steps).render
  | .help => machine.printLine (utf8 Console.help)
  | .next => machine
  | .exit => machine

/-- Does what a line of console input says in front of an instruction. -/
def command (machine : Machine) (pos : Nat) (opcode : Opcode) (line : Bytes) : Machine :=
  if trimBlank line = [] then machine.stop pos opcode
  else match Command.parse? line with
  | none => (machine.printLine (Command.complaint line)).stop pos opcode
  | some .next => machine.execute
  | some .exit => (machine.setMode .running).execute
  | some request => (machine.answer pos opcode request).stop pos opcode

/-- The console in front of an instruction gets what the line source handed out. -/
def receiveCommand (machine : Machine) (pos : Nat) (opcode : Opcode) : Entry → Machine
  | .line text => machine.command pos opcode text
  | .ended _ => ((machine.record (.consoleClosed pos)).setMode .running).execute
  | .failed reason => machine.finish (some (.readCommand (.failed reason)))
  | .cancelled => machine.cancel.finish (some (.readCommand .cancelled))

/-- The move of a machine that waits for a line. -/
def receive (machine : Machine) (entry : Entry) : Machine :=
  let noted := machine.recordEntry entry
  match machine.status, machine.code with
  | .stopped, .op pos action _ => noted.receiveCommand pos (.basic action) entry
  | .stopped, .loop pos _ _ => noted.receiveCommand pos .loop entry
  | .asking, .op _ _ rest => noted.receiveInput rest entry
  | _, _ => noted

/-- Makes the program start again; tape, mode, counts, pending input and output stay. -/
def restart (machine : Machine) : Machine :=
  { machine with code := machine.program.code, loops := [], status := .ready }

/-- What has happened, in the order of time. -/
def events (machine : Machine) : List Event := machine.journal.reverse

/-- The machine with an empty journal. -/
def forget (machine : Machine) : Machine := { machine with journal := [] }

/-- The error that ended the run. -/
def error? (machine : Machine) : Option RunError :=
  match machine.status with
  | .halted error => error
  | _ => none

/-- Whether the run is over. -/
def isHalted (machine : Machine) : Bool :=
  match machine.status with
  | .halted _ => true
  | _ => false

end Machine

end TapeMachine
