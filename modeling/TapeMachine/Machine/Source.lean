import TapeMachine.Bytes

/-! Line sources: where program input and debugger commands come from. -/

namespace TapeMachine

/-- What a line source hands out when it is asked for a line. -/
inductive Entry where
  /-- A line, without its line ending. -/
  | line (text : Bytes)
  /-- The end of the input, in the source's own words. -/
  | ended (report : Bytes)
  /-- The source failed. -/
  | failed (reason : Bytes)
  /-- The run was cancelled while the source waited. -/
  | cancelled
  deriving DecidableEq, Repr

/-- The wording of a cancellation. -/
def cancelledMessage : Bytes := utf8 "context canceled"

/-- The usual words at the end of the input. -/
def endMessage : Bytes := utf8 "EOF"

/-- What a source hands out for ever after its last line. -/
def Entry.endOfInput : Entry := .ended endMessage

/-- Why a source failed to hand out a line. -/
inductive SourceError where
  /-- It failed. -/
  | failed (reason : Bytes)
  /-- The run was cancelled. -/
  | cancelled
  deriving DecidableEq, Repr

/-- The wording of a source error. -/
def SourceError.message : SourceError → Bytes
  | failed reason => reason
  | cancelled => cancelledMessage

end TapeMachine
