import TapeMachine.Input.Lines

/-! A queue of lines between a reader that fills it and a machine that empties it. -/

namespace TapeMachine

/-- Why a queue was closed. -/
inductive CloseReason where
  /-- The stream ended, or nobody wants more lines. -/
  | ended
  /-- The stream could not be read. -/
  | failed (reason : Bytes)
  /-- The run was cancelled. -/
  | cancelled
  deriving DecidableEq, Repr

/-- What a closed and empty queue hands out. -/
def CloseReason.entry : CloseReason → Entry
  | ended => .endOfInput
  | failed reason => .failed reason
  | cancelled => .cancelled

/-- The wording of a reason in a log. -/
def CloseReason.report : CloseReason → Bytes
  | ended => utf8 "<nil>"
  | failed reason => reason
  | cancelled => cancelledMessage

/-- How a queue was closed: why, and how many lines waited then. -/
structure Closing where
  /-- Why it was closed. -/
  reason : CloseReason
  /-- The lines that waited. -/
  queued : Nat
  deriving DecidableEq, Repr

/-- Lines that wait to be read. -/
structure LineQueue where
  /-- The lines, oldest first. -/
  waiting : List Bytes
  /-- How many lines have been accepted. -/
  received : Nat
  /-- How the queue was closed, if it was. -/
  closing : Option Closing
  deriving DecidableEq, Repr

namespace LineQueue

/-- No line yet. -/
def empty : LineQueue := ⟨[], 0, none⟩

/-- Accepts a line, unless the queue is closed. -/
def push (queue : LineQueue) (line : Bytes) : LineQueue :=
  match queue.closing with
  | some _ => queue
  | none => { queue with waiting := queue.waiting ++ [line], received := queue.received + 1 }

/-- Closes the queue. Only the first reason counts. -/
def close (queue : LineQueue) (reason : CloseReason) : LineQueue :=
  match queue.closing with
  | some _ => queue
  | none => { queue with closing := some ⟨reason, queue.waiting.length⟩ }

/-- Hands out the oldest line, or the reason of the closing once no line waits; `none` means that
the queue is open and has no line yet. -/
def take? (queue : LineQueue) : Option (Entry × LineQueue) :=
  match queue.waiting with
  | line :: rest => some (.line line, { queue with waiting := rest })
  | [] => queue.closing.map fun closing => (closing.reason.entry, queue)

end LineQueue

end TapeMachine
