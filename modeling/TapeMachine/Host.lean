import TapeMachine.Config.Environment
import TapeMachine.Disk
import TapeMachine.Input.Lines
import TapeMachine.Machine.Session
import TapeMachine.Message
import TapeMachine.Stats

/-! What a program that runs machines needs from the world around it, and such a world in memory. -/

namespace TapeMachine

/-- The world around a program. -/
structure Host (m : Type → Type) where
  /-- The environment variables. -/
  environment : Environment
  /-- Whether there is a user at a terminal. -/
  interactive : Bool
  /-- How many bytes of program output standard output takes before it fails; `none` if it never
  does. -/
  room : Option Nat
  /-- Reads a file. -/
  readFile : Bytes → m (Except FileError Bytes)
  /-- Makes an empty file. -/
  createFile : Bytes → m (Except FileError Unit)
  /-- Brings texts where they go. -/
  send : List Message → m Unit
  /-- Runs a machine on standard input, and brings the texts of its events where they go. -/
  run : Machine → (Event → List Message) → m (Machine × Stats)

/-- A world in memory. -/
structure Workspace where
  /-- The files. -/
  disk : Disk
  /-- What standard input still holds. -/
  stdin : Bytes
  /-- What has gone to standard output. -/
  stdout : Bytes
  /-- What has gone to standard error. -/
  stderr : Bytes
  deriving DecidableEq, Repr

namespace Workspace

/-- A world with some files and a standard input. -/
def fresh (disk : Disk) (stdin : Bytes) : Workspace := ⟨disk, stdin, [], []⟩

/-- Brings texts where they go. -/
def send (workspace : Workspace) (messages : List Message) : Workspace :=
  { workspace with
    disk := (Message.paths messages).foldl (fun disk path =>
      disk.appendFile path (Message.textOn messages (.file path))) workspace.disk
    stdout := workspace.stdout ++ Message.textOn messages .stdout
    stderr := workspace.stderr ++ Message.textOn messages .stderr }

/-- Makes an empty file. -/
def createFile (workspace : Workspace) (path : Bytes) : Except FileError Workspace :=
  (workspace.disk.createFile path).map fun disk => { workspace with disk }

/-- Runs a machine on all of standard input, with at most `fuel` moves. -/
def run (workspace : Workspace) (fuel : Nat) (machine : Machine)
    (messages : Event → List Message) : (Machine × Stats) × Workspace :=
  let ended := (Session.run fuel ⟨machine, scriptOf workspace.stdin⟩).machine
  let events := ended.events
  ((ended, Stats.ofEvents events),
    { workspace with stdin := [] }.send (events.flatMap messages))

/-- The world in memory as a host, on which nobody sits at a terminal. -/
def host (fuel : Nat) (environment : Environment) : Host (StateM Workspace) where
  environment := environment
  interactive := false
  room := none
  readFile path := do return (← get).disk.content path
  createFile path := do
    match (← get).createFile path with
    | .ok workspace =>
      set workspace
      return .ok ()
    | .error error => return .error error
  send messages := modify fun workspace => workspace.send messages
  run machine messages := modifyGet fun workspace => workspace.run fuel machine messages

end Workspace

end TapeMachine
