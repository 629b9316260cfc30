import TapeMachine.Runner

/-! Two small programs that come with the machine. -/

namespace TapeMachine

/-- A program that is run as it is. -/
structure Sample where
  /-- Its name. -/
  name : Bytes
  /-- Its source. -/
  source : Bytes
  /-- The settings that it is run with. -/
  config : Config

namespace Sample

/-- Says hello. -/
def hello : Sample where
  name := utf8 "hello.bf"
  source := utf8
    ("Prints Hello World followed by a newline\n\n" ++
      "++++++++[>++++[>++>+++>+++>+<<<<-]>+>+>->>+[<]<-]\n" ++
      ">>.>---.+++++++..+++.>>.<-.<.+++.------.--------.>>+.>++.\n")
  config := .default

/-- Says what it hears. -/
def echo : Sample where
  name := utf8 "echo.bf"
  source := utf8
    ("Echoes every input line until the input ends\n" ++
      "The cell is cleared before each read so the end of input stops the loop\n\n" ++
      ",[.[-],]\n")
  config := { Config.default with inputMode := utf8 InputMode.stream.name, stats := true }

/-- Runs a sample, and returns the exit code. -/
def execute {m : Type → Type} [Monad m] (sample : Sample) (host : Host m) : m Nat := do
  let logger := some Logger.preset
  match ← (Runner.fresh (utf8 "Driver") sample.config).loadSource host logger sample.name
      sample.source with
  | .error error =>
    host.send [.err (error.message ++ [newline])]
    return 1
  | .ok runner =>
    let (_, ended) ← runner.run host logger .never
    match ended with
    | .error error =>
      host.send [.err (utf8 error.message ++ [newline])]
      return 1
    | .ok machine =>
      match machine.error? with
      | some error =>
        host.send [.err (error.message ++ [newline])]
        return 1
      | none => return 0

end Sample

end TapeMachine
