import TapeMachine.Log.Record
import TapeMachine.Machine.Event

/-! What the events of a run look like in the log. -/

namespace TapeMachine

/-- A record at the trace level. -/
def LogRecord.traced (message behavior : String) (fields : List (String × LogValue)) : LogRecord :=
  .of .trace message (("Behavior", .text (utf8 behavior)) :: fields)

/-- A natural number in a record. -/
def LogValue.nat (n : Nat) : LogValue := .int n

/-- The record that an event leaves in the log. Most events are only logged for a tracer; the ends
of the input and of the run are logged in any case. -/
def Event.logRecord? (tracing : Bool) : Event → Option LogRecord
  | .exec pos opcode steps pointer cell _ =>
    if tracing then some <| .traced "Inst" "Exec"
      [("Pos", .nat pos), ("OpCode", .text (utf8 opcode.name)), ("Pointer", .nat pointer),
       ("Cell", .nat cell.toNat), ("Steps", .nat steps)]
    else none
  | .breakpoint pos =>
    if tracing then some (.traced "Debug" "Breakpoint" [("Pos", .nat pos)]) else none
  | .modeChange mode =>
    if tracing then some (.traced "Debug" "ModeChange" [("Mode", .text (utf8 mode.name))])
    else none
  | .output byte =>
    if tracing then some (.traced "IO" "Output" [("Data", .nat byte.toNat)]) else none
  | .input byte =>
    if tracing then some (.traced "IO" "Input" [("Data", .nat byte.toNat)]) else none
  | .inputExhausted pointer => some (.traced "IO" "InputExhausted" [("Pointer", .nat pointer)])
  | .consoleClosed pos => some (.traced "Debug" "InputClosed" [("Pos", .nat pos)])
  | .checkpoint pointer cell mode steps pending => some <| .of .debug "StateCheckpoint"
      [("Pointer", .nat pointer), ("Cell", .nat cell.toNat), ("Mode", .mode mode),
       ("Steps", .nat steps), ("Pending", .nat pending)]
  | _ => none

end TapeMachine
