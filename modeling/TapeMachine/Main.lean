import TapeMachine.CommandLine.Basic
import TapeMachine.Config.Decoders
import TapeMachine.Input.Reader

/-! The command line on a real system. -/

namespace TapeMachine.Terminal

/-- The environment variables that matter. -/
def variableNames : List String :=
  ["BRFK_TAPE_LENGTH", "BRFK_INPUT_MODE", "BRFK_DEBUG", "BRFK_TRACE", "BRFK_STATS",
   "BRFK_LOG_LEVEL", "BRFK_LOG_FILE", "BRFK_PROMPT"]

/-- The environment as it is now. -/
def environment : IO Environment := do
  let known ← variableNames.filterMapM fun name => do
    return (← IO.getEnv name).map fun value => (name, utf8 value)
  return fun name => (known.find? fun (other, _) => other = name).map Prod.snd

/-- A byte string as the system takes it. -/
def toBuffer (bytes : Bytes) : ByteArray := ⟨bytes.toArray⟩

/-- A path as the system takes it. -/
def toPath (path : Bytes) : String :=
  (String.fromUTF8? (toBuffer path)).getD ""

/-- The number of the error of a system that meets a file where it needs a directory. -/
def notDirectoryCode : UInt32 := 20

/-- What the system says about a file operation that failed. -/
def faultOf : IO.Error → FileFault
  | .noFileOrDirectory _ _ _ => .missing
  | .inappropriateType _ code _ => if code = notDirectoryCode then .notDirectory else .isDirectory
  | .permissionDenied _ _ _ => .denied
  | .noSuchThing _ _ _ => .missing
  | _ => .invalid

/-- Reads a file. -/
def readFile (path : Bytes) : IO (Except FileError Bytes) := do
  try return .ok (← IO.FS.readBinFile (toPath path)).toList
  catch error =>
    let fault := faultOf error
    return .error ⟨if fault = .isDirectory then "read" else "open", path, fault⟩

/-- Makes an empty file. -/
def createFile (path : Bytes) : IO (Except FileError Unit) := do
  try
    IO.FS.writeBinFile (toPath path) .empty
    return .ok ()
  catch error => return .error ⟨"open", path, faultOf error⟩

/-- Brings one text where it goes. -/
def sendOne (message : Message) : IO Unit := do
  let buffer := toBuffer message.text
  match message.channel with
  | .stdout =>
    let stream ← IO.getStdout
    stream.write buffer
    stream.flush
  | .stderr =>
    let stream ← IO.getStderr
    stream.write buffer
    stream.flush
  | .file path =>
    let handle ← IO.FS.Handle.mk (toPath path) .append
    handle.write buffer

/-- Brings texts where they go. -/
def send (messages : List Message) : IO Unit := messages.forM sendOne

/-- Reads up to the end of a line; the bytes behind it stay in the reader. -/
partial def nextEntry (reader : IO.Ref Reader) : IO Entry := do
  match (← reader.get).queue.take? with
  | some (entry, queue) =>
    reader.modify fun reader => { reader with queue }
    return entry
  | none =>
    let bytes ← (← IO.getStdin).read 4096
    if bytes.isEmpty then reader.modify fun reader => reader.finish [] .ended
    else reader.modify fun reader => reader.feed bytes.toList
    nextEntry reader

/-- Moves a machine to the end of its run. What it writes down is brought where it goes and then
forgotten. -/
partial def drive (reader : IO.Ref Reader) (messages : Event → List Message) (machine : Machine)
    (stats : Stats) : IO (Machine × Stats) := do
  let events := machine.events
  send (events.flatMap messages)
  let stats := events.foldl Stats.observe stats
  let machine := machine.forget
  match machine.status with
  | .halted _ => return (machine, stats)
  | .ready => drive reader messages machine.advance stats
  | _ => drive reader messages (machine.receive (← nextEntry reader)) stats

/-- The system as a host. -/
def host : IO (Host IO) := do
  let environment ← environment
  let interactive ← (← IO.getStdin).isTty
  let reader ← IO.mkRef Reader.fresh.start
  return {
    environment, interactive, readFile, createFile, send
    room := none
    run := fun machine messages => drive reader messages machine .zero }

end TapeMachine.Terminal

/-- Does what the command line says. -/
def main (arguments : List String) : IO UInt32 := do
  let host ← TapeMachine.Terminal.host
  let result ← TapeMachine.CommandLine.execute .builtIn host (arguments.map TapeMachine.utf8)
  return (TapeMachine.CommandLine.exitCode result).toUInt32
