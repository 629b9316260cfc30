import TapeMachine.Bytes

/-! Texts for people and files, each with the place that it goes to. -/

namespace TapeMachine

/-- Where a text goes. -/
inductive Channel where
  /-- Standard output: program output, the console and reports. -/
  | stdout
  /-- Standard error: prompts, statistics, errors and the log. -/
  | stderr
  /-- The end of a file. -/
  | file (path : Bytes)
  deriving DecidableEq, Repr

/-- A text for a channel. -/
structure Message where
  /-- Where it goes. -/
  channel : Channel
  /-- The text. -/
  text : Bytes
  deriving DecidableEq, Repr

namespace Message

/-- A text for standard output. -/
def out (text : Bytes) : Message := ⟨.stdout, text⟩

/-- A text for standard error. -/
def err (text : Bytes) : Message := ⟨.stderr, text⟩

/-- What goes to one channel. -/
def textOn (messages : List Message) (channel : Channel) : Bytes :=
  messages.flatMap fun message => if message.channel = channel then message.text else []

/-- The paths of the files that texts go to, each once. -/
def paths (messages : List Message) : List Bytes :=
  (messages.filterMap fun message =>
    match message.channel with
    | .file path => some path
    | _ => none).eraseDups

end Message

end TapeMachine
