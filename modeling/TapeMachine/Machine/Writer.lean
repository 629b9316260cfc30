import TapeMachine.Bytes

/-! Buffered output: bytes collect in a buffer and reach the sink in chunks. -/

namespace TapeMachine

/-- The number of bytes that the buffer holds. -/
def bufferCapacity : Nat := 4096

/-- What the sink did with a chunk. -/
inductive Delivery where
  /-- The sink took the whole chunk. -/
  | accepted (chunk : Bytes)
  /-- The sink took the first bytes of the chunk and then failed. -/
  | refused (part : Bytes)
  deriving DecidableEq, Repr

/-- The bytes that the sink has taken. -/
def Delivery.bytes : Delivery → Bytes
  | accepted chunk => chunk
  | refused part => part

/-- A buffer in front of a sink. -/
structure Writer where
  /-- The bytes that the sink has not been given yet. -/
  buffer : Array UInt8
  /-- How many more bytes the sink takes before it fails; `none` if it never does. -/
  room : Option Nat
  /-- Whether the sink has failed. It is never tried again after that. -/
  failed : Bool
  deriving DecidableEq, Repr

namespace Writer

/-- An empty buffer in front of a fresh sink. -/
def fresh (room : Option Nat) : Writer := ⟨#[], room, false⟩

/-- Gives the buffered bytes to the sink. -/
def flush (writer : Writer) : Writer × Option Delivery :=
  if writer.failed || writer.buffer.isEmpty then (writer, none)
  else match writer.room with
  | none => ({ writer with buffer := #[] }, some (.accepted writer.buffer.toList))
  | some room =>
    if writer.buffer.size ≤ room then
      ({ writer with buffer := #[], room := some (room - writer.buffer.size) },
        some (.accepted writer.buffer.toList))
    else
      ({ buffer := writer.buffer.extract room, room := some 0, failed := true },
        some (.refused (writer.buffer.toList.take room)))

/-- Adds one byte. A byte that finds the buffer full makes room for itself first; after a failure
nothing is added. -/
def put (writer : Writer) (byte : UInt8) : Writer × Option Delivery :=
  if writer.failed then (writer, none)
  else if writer.buffer.size < bufferCapacity then
    ({ writer with buffer := writer.buffer.push byte }, none)
  else
    let (flushed, delivery) := writer.flush
    if flushed.failed then (flushed, delivery)
    else ({ flushed with buffer := flushed.buffer.push byte }, delivery)

end Writer

end TapeMachine
