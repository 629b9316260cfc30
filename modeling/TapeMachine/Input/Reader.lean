import TapeMachine.Input.LineQueue

/-! The reader that fills a line queue from a stream whose bytes arrive over time. -/

namespace TapeMachine

/-- A line queue and the reader that fills it. -/
structure Reader where
  /-- The queue. -/
  queue : LineQueue
  /-- The bytes that have arrived and are not in the queue. -/
  unread : Bytes
  /-- How the stream ends behind them, if it does. -/
  ending : Option CloseReason
  /-- Whether the reader has been started. -/
  started : Bool
  /-- Whether it has been told to stop. -/
  stopped : Bool
  /-- Whether the run that it reads for has been cancelled. -/
  cancelled : Bool
  /-- Whether it has exited. -/
  exited : Bool
  deriving DecidableEq, Repr

namespace Reader

/-- A reader of a stream of which nothing has arrived. -/
def fresh : Reader := ⟨.empty, [], none, false, false, false, false⟩

/-- Puts the first full line that has arrived into the queue. A reader that was told to stop exits
then. -/
def readLine (reader : Reader) (line rest : Bytes) : Reader :=
  { reader with
    queue := reader.queue.push (trimLineEnd line)
    unread := rest
    exited := reader.stopped }

/-- Reads the end of the stream: what is left becomes a line, and the queue is closed. -/
def readEnd (reader : Reader) (reason : CloseReason) : Reader :=
  let queue :=
    if reader.unread = [] then reader.queue else reader.queue.push (trimLineEnd reader.unread)
  { reader with queue := queue.close reason, unread := [], exited := true }

/-- Reads all that has arrived, given as much fuel as there are bytes and one more. -/
def settleFrom : Nat → Reader → Reader
  | 0, reader => reader
  | fuel + 1, reader =>
    if !reader.started || reader.exited then reader
    else
      let line := reader.unread.takeWhile (· ≠ newline)
      match reader.unread.drop line.length with
      | b :: rest => settleFrom fuel (reader.readLine (line ++ [b]) rest)
      | [] =>
        match reader.ending with
        | some reason => reader.readEnd reason
        | none => reader

/-- Reads all that has arrived. -/
def settle (reader : Reader) : Reader := settleFrom (reader.unread.length + 1) reader

/-- Starts the reader. It can be started once; if its run has been cancelled the queue closes. -/
def start (reader : Reader) : Reader :=
  if reader.started then reader
  else
    let queue := if reader.cancelled then reader.queue.close .cancelled else reader.queue
    { reader with started := true, queue := queue }.settle

/-- Bytes arrive. Behind the end of the stream none does. -/
def feed (reader : Reader) (bytes : Bytes) : Reader :=
  match reader.ending with
  | some _ => reader
  | none => { reader with unread := reader.unread ++ bytes }.settle

/-- The stream ends. -/
def finish (reader : Reader) (bytes : Bytes) (reason : CloseReason) : Reader :=
  match reader.ending with
  | some _ => reader
  | none =>
    { reader with unread := reader.unread ++ bytes, ending := some reason }.settle

/-- Nobody wants more lines: the queue closes, and the reader exits behind its next line. -/
def stop (reader : Reader) : Reader :=
  { reader with stopped := true, queue := reader.queue.close .ended }

/-- The run is cancelled; a reader that has been started closes the queue. -/
def cancel (reader : Reader) : Reader :=
  { reader with
    cancelled := true
    queue := if reader.started then reader.queue.close .cancelled else reader.queue }

/-- Takes what the queue hands out without waiting; a queue that would make the caller wait hands
out the cancellation of the caller. -/
def take (reader : Reader) : Entry × Reader :=
  match reader.queue.take? with
  | some (entry, queue) => (entry, { reader with queue := queue })
  | none => (.cancelled, reader)

end Reader

end TapeMachine
