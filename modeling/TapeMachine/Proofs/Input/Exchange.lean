import TapeMachine.Proofs.Input.Reader

/-! A reader, its queue and a consumer in any interleaving: no line is lost, doubled or out of turn,
and the first reason to close the queue is the one that counts. -/

namespace TapeMachine

namespace LineQueue

/-- An open queue accepts a line behind those that wait. -/
theorem push_of_open {queue : LineQueue} (opened : queue.closing = none) (line : Bytes) :
    queue.push line =
      { queue with waiting := queue.waiting ++ [line], received := queue.received + 1 } := by
  simp [push, opened]

/-- A closed queue accepts nothing. -/
theorem push_of_closed {queue : LineQueue} {closing : Closing}
    (closed : queue.closing = some closing) (line : Bytes) : queue.push line = queue := by
  simp [push, closed]

/-- An open queue is closed with the reason given. -/
theorem close_of_open {queue : LineQueue} (opened : queue.closing = none) (reason : CloseReason) :
    queue.close reason = { queue with closing := some ⟨reason, queue.waiting.length⟩ } := by
  simp [close, opened]

/-- A closed queue keeps its first reason. -/
theorem close_of_closed {queue : LineQueue} {closing : Closing}
    (closed : queue.closing = some closing) (reason : CloseReason) :
    queue.close reason = queue := by
  simp [close, closed]

/-- A queue hands out its oldest line, or the reason of its closing once no line waits. -/
theorem take?_cases {queue left : LineQueue} {entry : Entry}
    (found : queue.take? = some (entry, left)) :
    (∃ text, entry = .line text ∧ queue.waiting = text :: left.waiting ∧
      left = { queue with waiting := left.waiting }) ∨
    (∃ closing, queue.closing = some closing ∧ queue.waiting = [] ∧
      entry = closing.reason.entry ∧ left = queue) := by
  -- The queue looks for a line first, so its closing counts only behind the last of them.
  unfold take? at found
  split at found
  · rename_i text rest waiting
    cases found
    exact .inl ⟨text, rfl, waiting, rfl⟩
  · rename_i empty
    obtain ⟨closing, closed, handed⟩ := Option.map_eq_some_iff.mp found
    cases handed
    exact .inr ⟨closing, closed, empty, rfl, rfl⟩

/-- A closed queue without lines hands out the reason of its closing and stays as it is. -/
theorem take?_of_exhausted {queue : LineQueue} {closing : Closing}
    (closed : queue.closing = some closing) (empty : queue.waiting = []) :
    queue.take? = some (closing.reason.entry, queue) := by
  simp [take?, empty, closed]

end LineQueue

/-- The line that an entry holds, if it holds one. -/
def Entry.lines : Entry → List Bytes
  | line text => [text]
  | _ => []

/-- The reason of a closing is no line. -/
@[simp] theorem CloseReason.lines_entry (reason : CloseReason) : reason.entry.lines = [] := by
  cases reason <;> rfl

/-- How a step answers the consumer. -/
inductive Reply where
  /-- Not at all: nobody has asked, or the consumer has to wait. -/
  | silence
  /-- With what the queue hands out. -/
  | handed (entry : Entry)
  /-- With the cancellation of the consumer itself, which gives up its wait. -/
  | givenUp
  deriving DecidableEq, Repr

/-- A reader with its queue and a consumer, and what has passed through them. -/
structure Exchange where
  /-- The reader with its queue. -/
  reader : Reader
  /-- All bytes of the stream that have arrived. -/
  arrived : Bytes
  /-- The lines that the reader has read, whether or not the queue was open. -/
  offered : List Bytes
  /-- The lines that the queue has accepted. -/
  accepted : List Bytes
  /-- The lines that the consumer has got. -/
  delivered : List Bytes
  /-- Whether the consumer has found nothing in the queue and waits. -/
  waits : Bool
  deriving DecidableEq, Repr

namespace Exchange

/-- Nothing has happened yet. -/
def fresh : Exchange := ⟨.fresh, [], [], [], [], false⟩

/-- The queue between the reader and the consumer. -/
def queue (exchange : Exchange) : LineQueue := exchange.reader.queue

/-- The reader offers a piece to the queue, which accepts it unless it is closed. -/
def push (exchange : Exchange) (piece rest : Bytes) : Exchange :=
  { exchange with
    reader := exchange.reader.pushPiece piece rest
    offered := exchange.offered ++ [trimLineEnd piece]
    accepted :=
      if exchange.queue.closing.isSome then exchange.accepted
      else exchange.accepted ++ [trimLineEnd piece] }

/-- Someone closes the queue. -/
def close (exchange : Exchange) (reason : CloseReason) : Exchange :=
  { exchange with reader := { exchange.reader with queue := exchange.queue.close reason } }

/-- The consumer gets what the queue hands out. -/
def hand (exchange : Exchange) (entry : Entry) (left : LineQueue) : Exchange :=
  { exchange with
    reader := { exchange.reader with queue := left }
    delivered := exchange.delivered ++ entry.lines
    waits := false }

/-- One atomic step of anyone who takes part. -/
inductive Step (before : Exchange) : Reply → Exchange → Prop
  /-- The reader is started. -/
  | started : Step before .silence { before with reader := { before.reader with started := true } }
  /-- Bytes of the stream arrive. -/
  | arrived (bytes : Bytes) (going : before.reader.ending = none) :
      Step before .silence { before with
        reader := { before.reader with unread := before.reader.unread ++ bytes }
        arrived := before.arrived ++ bytes }
  /-- The stream ends, or fails. -/
  | ended (reason : CloseReason) (going : before.reader.ending = none) :
      Step before .silence { before with reader := { before.reader with ending := some reason } }
  /-- The reader pushes its next line. -/
  | pushed {piece rest : Bytes} (reading : before.reader.isReading = true)
      (next : before.reader.nextPiece? = some (piece, rest)) :
      Step before .silence (before.push piece rest)
  /-- The reader closes the queue at the end of the stream. -/
  | closed {reason : CloseReason} (reading : before.reader.isReading = true)
      (nothing : before.reader.nextPiece? = none) (atEnd : before.reader.ending = some reason) :
      Step before .silence { before with reader := before.reader.closeAtEnd reason }
  /-- A reader that was told to stop exits. -/
  | left (told : before.reader.stopped = true) :
      Step before .silence { before with reader := { before.reader with exited := true } }
  /-- The run that the reader was started for is cancelled. -/
  | cancelled :
      Step before .silence { before with reader := { before.reader with cancelled := true } }
  /-- Whoever watches that run closes the queue. -/
  | watched (working : before.reader.started = true) (revoked : before.reader.cancelled = true) :
      Step before .silence (before.close .cancelled)
  /-- The queue is closed because nobody wants more lines. -/
  | stopped : Step before .silence { before with reader := before.reader.stop }
  /-- The consumer asks, and the queue hands something out. -/
  | handed {entry : Entry} {left : LineQueue} (found : before.queue.take? = some (entry, left)) :
      Step before (.handed entry) (before.hand entry left)
  /-- The consumer asks, and finds nothing. -/
  | waited (nothing : before.queue.take? = none) :
      Step before .silence { before with waits := true }
  /-- The consumer gives up because it is itself cancelled, whatever the queue holds by then. -/
  | gaveUp (waiting : before.waits = true) : Step before .givenUp { before with waits := false }

/-- The exchanges that come from one by steps in any order. -/
inductive Reaches (start : Exchange) : Exchange → Prop
  /-- The exchange itself. -/
  | refl : Reaches start start
  /-- One more step. -/
  | step {exchange after : Exchange} {reply : Reply} : Reaches start exchange →
      Step exchange reply after → Reaches start after

/-- What is reached from a reached exchange is reached. -/
theorem Reaches.trans {start middle last : Exchange} (early : start.Reaches middle)
    (late : middle.Reaches last) : start.Reaches last := by
  induction late with
  | refl => exact early
  | step _ step ih => exact ih.step step

/-- What holds at every moment: the lines are in order and counted, they are the lines of the
stream, and a queue that only the end of the stream can have closed has got them all. -/
structure Intact (exchange : Exchange) : Prop where
  order : exchange.delivered ++ exchange.queue.waiting = exchange.accepted
  counted : exchange.queue.received = exchange.accepted.length
  cut : ∀ more, (exchange.reader.ending.isSome = true → more = []) →
    lines (exchange.arrived ++ more) = exchange.offered ++ lines (exchange.reader.unread ++ more)
  early : exchange.accepted <+: exchange.offered
  complete : exchange.queue.closing = none → exchange.accepted = exchange.offered
  final : ∀ closing, exchange.queue.closing = some closing → exchange.reader.stopped = false →
    exchange.reader.cancelled = false → exchange.reader.ending = some closing.reason ∧
      exchange.reader.unread = [] ∧ exchange.accepted = exchange.offered

/-- Nothing has been lost before anything happens. -/
theorem intact_fresh : Intact fresh := by
  constructor <;> simp [fresh, queue, Reader.fresh, LineQueue.empty]

namespace Intact

variable {exchange : Exchange}

/-- Closing the queue loses nothing, as long as the reason is the end of the stream or someone has
stopped or cancelled the reader. -/
theorem close (intact : Intact exchange) {reason : CloseReason}
    (proper : exchange.reader.stopped = false → exchange.reader.cancelled = false →
      exchange.reader.ending = some reason ∧ exchange.reader.unread = []) :
    Intact (exchange.close reason) := by
  have queue : (exchange.close reason).queue = exchange.queue.close reason := rfl
  cases before : exchange.queue.closing with
  | some first =>
    -- Only the first closing counts.
    rw [LineQueue.close_of_closed before] at queue
    exact { intact with
      order := queue ▸ intact.order
      counted := queue ▸ intact.counted
      complete := queue ▸ intact.complete
      final := queue ▸ intact.final }
  | none =>
    -- Up to the first closing every line that was offered has been accepted.
    rw [LineQueue.close_of_open before] at queue
    refine { intact with order := ?_, counted := ?_, complete := ?_, final := ?_ }
    · rw [queue]
      exact intact.order
    · rw [queue]
      exact intact.counted
    · intro opened
      rw [queue] at opened
      cases opened
    · intro closing closed calm running
      obtain ⟨atEnd, nothing⟩ := proper calm running
      rw [queue, Option.some.injEq] at closed
      rw [← closed]
      exact ⟨atEnd, nothing, intact.complete before⟩

/-- The reader pushes its next line. -/
theorem push (intact : Intact exchange) {piece rest : Bytes}
    (next : exchange.reader.nextPiece? = some (piece, rest)) :
    Intact (exchange.push piece rest) := by
  -- The piece is the first line of what was left, so it moves from there to the lines read.
  have cut : ∀ more, (exchange.reader.ending.isSome = true → more = []) →
      lines (exchange.arrived ++ more) =
        (exchange.offered ++ [trimLineEnd piece]) ++ lines (rest ++ more) := by
    intro more last
    rw [intact.cut more last, Reader.lines_of_nextPiece? next last]
    simp
  cases closing : exchange.queue.closing with
  | none =>
    -- An open queue accepts the line and keeps up with the reader.
    have pushed : (exchange.push piece rest).queue =
        exchange.queue.push (trimLineEnd piece) := rfl
    rw [LineQueue.push_of_open closing] at pushed
    have accepted : (exchange.push piece rest).accepted =
        exchange.accepted ++ [trimLineEnd piece] := by simp [Exchange.push, closing]
    have offered : (exchange.push piece rest).offered =
        exchange.offered ++ [trimLineEnd piece] := rfl
    have level : (exchange.push piece rest).accepted = (exchange.push piece rest).offered := by
      rw [accepted, offered, intact.complete closing]
    constructor
    · rw [pushed, accepted, ← intact.order]
      simp [Exchange.push]
    · rw [pushed, accepted, List.length_append, ← intact.counted]
      rfl
    · exact cut
    · exact level ▸ List.prefix_refl _
    · exact fun _ => level
    · intro later closed
      rw [pushed, closing] at closed
      cases closed
  | some reason =>
    -- A closed queue drops the line and falls behind the reader.
    have pushed : (exchange.push piece rest).queue =
        exchange.queue.push (trimLineEnd piece) := rfl
    rw [LineQueue.push_of_closed closing] at pushed
    have accepted : (exchange.push piece rest).accepted = exchange.accepted := by
      simp [Exchange.push, closing]
    constructor
    · rw [pushed, accepted, ← intact.order]
      rfl
    · rw [pushed, accepted, intact.counted]
    · exact cut
    · rw [accepted]
      exact intact.early.trans (List.prefix_append _ _)
    · intro opened
      rw [pushed, closing] at opened
      cases opened
    · -- Behind the end of the stream the reader has nothing to push.
      intro later closed calm running
      rw [pushed] at closed
      obtain ⟨-, nothing, -⟩ := intact.final later closed calm running
      rw [Reader.nextPiece?_of_nil nothing] at next
      cases next

/-- The consumer gets what the queue hands out. -/
theorem hand (intact : Intact exchange) {entry : Entry} {left : LineQueue}
    (found : exchange.queue.take? = some (entry, left)) : Intact (exchange.hand entry left) := by
  have queue : (exchange.hand entry left).queue = left := rfl
  rcases LineQueue.take?_cases found with
    ⟨text, rfl, waiting, rest⟩ | ⟨closing, closed, empty, rfl, rfl⟩
  · -- The oldest line changes hands, and the order of all lines stays the same.
    have received : left.received = exchange.queue.received := by rw [rest]
    have closing : left.closing = exchange.queue.closing := by rw [rest]
    constructor
    · rw [queue]
      simpa [Exchange.hand, Entry.lines, waiting] using intact.order
    · rw [queue, received]
      exact intact.counted
    · exact intact.cut
    · exact intact.early
    · rw [queue, closing]
      exact intact.complete
    · rw [queue, closing]
      exact intact.final
  · -- The reason of the closing is no line.
    constructor
    · rw [queue]
      simpa [Exchange.hand] using intact.order
    · exact intact.counted
    · exact intact.cut
    · exact intact.early
    · exact intact.complete
    · exact intact.final

end Intact

/-- No step loses, doubles or reorders a line. -/
theorem Step.intact {before after : Exchange} {reply : Reply} (step : Step before reply after)
    (intact : Intact before) : Intact after := by
  cases step with
  | started => exact { intact with }
  | arrived bytes going =>
    -- The bytes were among those that could still arrive.
    refine { intact with cut := ?_, final := ?_ }
    · intro more _
      have earlier := intact.cut (bytes ++ more) (by simp [going])
      simpa using earlier
    · intro closing closed calm running
      have atEnd := (intact.final closing closed calm running).1
      simp [going] at atEnd
  | ended reason going =>
    -- Nothing else can arrive now, and the queue has not been closed by the reader yet.
    refine { intact with cut := ?_, final := ?_ }
    · intro more last
      exact intact.cut more (by simp [going])
    · intro closing closed calm running
      have atEnd := (intact.final closing closed calm running).1
      simp [going] at atEnd
  | pushed reading next => exact intact.push next
  | closed reading nothing atEnd =>
    -- The reader finds no piece at the end of the stream only when it has read everything.
    have last := Reader.unread_of_nextPiece?_none nothing (by simp [atEnd])
    exact { intact.close fun _ _ => ⟨atEnd, last⟩ with }
  | left told => exact { intact with }
  | cancelled => exact { intact with final := fun _ _ _ running => nomatch running }
  | watched working revoked =>
    refine intact.close fun _ running => ?_
    rw [running] at revoked
    cases revoked
  | stopped =>
    -- Nothing is promised about the reason once someone has stopped the reader.
    have told : Intact { before with reader := { before.reader with stopped := true } } :=
      { intact with final := fun _ _ calm _ => nomatch calm }
    exact told.close fun calm => nomatch calm
  | handed found => exact intact.hand found
  | waited nothing => exact { intact with }
  | gaveUp waiting => exact { intact with }

/-- No run loses, doubles or reorders a line. -/
theorem Reaches.intact {start exchange : Exchange} (reached : start.Reaches exchange)
    (intact : Intact start) : Intact exchange := by
  induction reached with
  | refl => exact intact
  | step _ step ih => exact step.intact ih

/-- All that a step can do to the queue. -/
theorem Step.queue_cases {before after : Exchange} {reply : Reply}
    (step : Step before reply after) :
    after.queue = before.queue ∨ (∃ line, after.queue = before.queue.push line) ∨
      (∃ reason, after.queue = before.queue.close reason) ∨
      ∃ entry, reply = .handed entry ∧ before.queue.take? = some (entry, after.queue) := by
  -- One kind of step pushes, three close and one takes; all others leave the queue alone.
  cases step with
  | pushed reading next => exact .inr (.inl ⟨_, rfl⟩)
  | closed reading nothing atEnd => exact .inr (.inr (.inl ⟨_, rfl⟩))
  | watched working revoked => exact .inr (.inr (.inl ⟨_, rfl⟩))
  | stopped => exact .inr (.inr (.inl ⟨_, rfl⟩))
  | handed found => exact .inr (.inr (.inr ⟨_, rfl, found⟩))
  | _ => exact .inl rfl

/-- A step leaves a closed queue closed for the same reason, and adds no line to it. -/
theorem Step.closed_queue {before after : Exchange} {reply : Reply}
    (step : Step before reply after) {closing : Closing}
    (closed : before.queue.closing = some closing) :
    after.queue.closing = some closing ∧ after.queue.waiting <:+ before.queue.waiting := by
  -- On a closed queue pushing and closing do nothing, and taking only removes a line.
  rcases step.queue_cases with same | ⟨line, pushed⟩ | ⟨reason, again⟩ | ⟨entry, -, found⟩
  · rw [same]
    exact ⟨closed, List.suffix_refl _⟩
  · rw [pushed, LineQueue.push_of_closed closed]
    exact ⟨closed, List.suffix_refl _⟩
  · rw [again, LineQueue.close_of_closed closed]
    exact ⟨closed, List.suffix_refl _⟩
  · rcases LineQueue.take?_cases found with ⟨text, -, waiting, rest⟩ | ⟨other, -, -, -, same⟩
    · rw [rest, waiting]
      exact ⟨closed, List.suffix_cons _ _⟩
    · rw [same]
      exact ⟨closed, List.suffix_refl _⟩

/-- A closed queue stays closed for the same reason, and never gets another line. -/
theorem Reaches.closed_queue {exchange later : Exchange} (reached : exchange.Reaches later)
    {closing : Closing} (closed : exchange.queue.closing = some closing) :
    later.queue.closing = some closing ∧ later.queue.waiting <:+ exchange.queue.waiting := by
  induction reached with
  | refl => exact ⟨closed, List.suffix_refl _⟩
  | step _ step ih =>
    obtain ⟨same, fewer⟩ := step.closed_queue ih.1
    exact ⟨same, fewer.trans ih.2⟩

/-- A queue that has handed out the reason of its closing hands out that reason for ever. -/
theorem Reaches.exhausted {exchange later : Exchange} (reached : exchange.Reaches later)
    {closing : Closing} (closed : exchange.queue.closing = some closing)
    (empty : exchange.queue.waiting = []) :
    later.queue.take? = some (closing.reason.entry, later.queue) := by
  -- A queue that can only shrink stays empty.
  obtain ⟨same, fewer⟩ := reached.closed_queue closed
  rw [empty, List.suffix_nil] at fewer
  exact LineQueue.take?_of_exhausted same fewer

/-- Only the step that hands something out answers with it. -/
theorem Step.take?_of_handed {before after : Exchange} {entry : Entry}
    (step : Step before (.handed entry) after) :
    before.queue.take? = some (entry, after.queue) ∧
      after.delivered = before.delivered ++ entry.lines := by
  cases step with
  | handed found => exact ⟨found, rfl⟩

/-- A consumer that gives up leaves the queue alone. -/
theorem Step.reader_of_givenUp {before after : Exchange} (step : Step before .givenUp after) :
    after.reader = before.reader := by
  cases step with
  | gaveUp waiting => rfl

/-- The reader reads the end of the stream in one step, or in two if there is an unfinished line. -/
theorem exists_reaches_readEnd {exchange : Exchange} (reading : exchange.reader.isReading = true)
    (unbroken : newline ∉ exchange.reader.unread) {reason : CloseReason}
    (atEnd : exchange.reader.ending = some reason) :
    ∃ after, exchange.Reaches after ∧ after.reader = exchange.reader.readEnd reason := by
  have next := Reader.nextPiece?_of_unbroken unbroken
  by_cases empty : exchange.reader.unread = []
  · have nothing := Reader.nextPiece?_of_nil empty
    refine ⟨_, .step .refl (.closed reading nothing atEnd), ?_⟩
    simp [Reader.readEnd, Reader.closeAtEnd, empty]
  · -- The unfinished line is pushed first, and then nothing is left.
    rw [if_pos (by simp [atEnd, empty])] at next
    have pushed : exchange.Reaches (exchange.push exchange.reader.unread []) :=
      .step .refl (.pushed reading next)
    refine ⟨_, pushed.step (.closed reading (Reader.nextPiece?_of_nil rfl) atEnd), ?_⟩
    simp [Reader.readEnd, Reader.closeAtEnd, Exchange.push, Reader.pushPiece, empty]

/-- The reader reads a full line in one step, or in two if it was told to stop. -/
theorem exists_reaches_readLine {exchange : Exchange} (reading : exchange.reader.isReading = true)
    {piece rest : Bytes} (next : exchange.reader.nextPiece? = some (piece, rest)) :
    ∃ after, exchange.Reaches after ∧ after.reader = exchange.reader.readLine piece rest := by
  have pushed : exchange.Reaches (exchange.push piece rest) := .step .refl (.pushed reading next)
  cases told : exchange.reader.stopped with
  | true =>
    refine ⟨_, pushed.step (.left told), ?_⟩
    simp [Exchange.push, Reader.pushPiece, Reader.readLine, told]
  | false =>
    have working := (exchange.reader.isReading_iff.mp reading).2
    refine ⟨_, pushed, ?_⟩
    simp [Exchange.push, Reader.pushPiece, Reader.readLine, told, working]

/-- Everything that the reader reads at once can be read in single steps. -/
theorem exists_reaches_settleFrom (fuel : Nat) :
    ∀ exchange : Exchange, ∃ after, exchange.Reaches after ∧
      after.reader = Reader.settleFrom fuel exchange.reader := by
  -- Each round reads one full line, and the last one waits or reads the end of the stream.
  induction fuel with
  | zero => exact fun exchange => ⟨exchange, .refl, rfl⟩
  | succ fuel ih =>
    intro exchange
    cases reading : exchange.reader.isReading with
    | false => exact ⟨exchange, .refl, (Reader.settleFrom_of_resting reading fuel).symm⟩
    | true =>
      rcases stream_cases exchange.reader.unread with ⟨line, rest, unbroken, split⟩ | unbroken
      · rw [Reader.settleFrom_of_line reading unbroken split]
        obtain ⟨after, reached, same⟩ :=
          exists_reaches_readLine reading (Reader.nextPiece?_of_line unbroken split)
        obtain ⟨last, further, settled⟩ := ih after
        exact ⟨last, reached.trans further, by rw [settled, same]⟩
      · rw [Reader.settleFrom_of_unbroken reading unbroken]
        cases atEnd : exchange.reader.ending with
        | none => exact ⟨exchange, .refl, rfl⟩
        | some reason => exact exists_reaches_readEnd reading unbroken atEnd

end Exchange

namespace Reader

/-- What can be asked of a reader as a whole. -/
inductive Operation where
  /-- To start. -/
  | start
  /-- To take bytes that arrive. -/
  | feed (bytes : Bytes)
  /-- To take the last bytes and the end of the stream. -/
  | finish (bytes : Bytes) (reason : CloseReason)
  /-- To stop. -/
  | stop
  /-- To take notice of a cancellation. -/
  | cancel
  /-- To hand out what the queue holds. -/
  | take
  deriving DecidableEq, Repr

/-- The reader behind an operation. -/
def perform (reader : Reader) : Operation → Reader
  | .start => reader.start
  | .feed bytes => reader.feed bytes
  | .finish bytes reason => reader.finish bytes reason
  | .stop => reader.stop
  | .cancel => reader.cancel
  | .take => reader.take.2

end Reader

namespace Exchange

/-- Every operation of the reader is a sequence of single steps. -/
theorem exists_reaches_perform (exchange : Exchange) (operation : Reader.Operation) :
    ∃ after, exchange.Reaches after ∧ after.reader = exchange.reader.perform operation := by
  -- Whatever has changed before, the reader then reads all that it can.
  have settle : ∀ middle : Exchange, exchange.Reaches middle →
      ∃ after, exchange.Reaches after ∧ after.reader = middle.reader.settle := by
    intro middle reached
    obtain ⟨after, further, settled⟩ :=
      middle.exists_reaches_settleFrom (middle.reader.unread.length + 1)
    exact ⟨after, reached.trans further, settled⟩
  cases operation with
  | start =>
    simp only [Reader.perform, Reader.start]
    split
    · exact ⟨exchange, .refl, rfl⟩
    · have begun : exchange.Reaches _ := .step .refl .started
      split
      · rename_i revoked
        exact settle _ (begun.step (.watched rfl revoked))
      · exact settle _ begun
  | feed bytes =>
    simp only [Reader.perform, Reader.feed]
    split
    · exact ⟨exchange, .refl, rfl⟩
    · rename_i going
      exact settle _ (.step .refl (.arrived bytes going))
  | finish bytes reason =>
    simp only [Reader.perform, Reader.finish]
    split
    · exact ⟨exchange, .refl, rfl⟩
    · rename_i going
      have fed : exchange.Reaches _ := .step .refl (.arrived bytes going)
      exact settle _ (fed.step (.ended reason going))
  | stop => exact ⟨_, .step .refl .stopped, rfl⟩
  | cancel =>
    have revoked : exchange.Reaches _ := .step .refl .cancelled
    simp only [Reader.perform, Reader.cancel]
    split
    · rename_i working
      exact ⟨_, revoked.step (.watched working rfl), rfl⟩
    · exact ⟨_, revoked, rfl⟩
  | take =>
    simp only [Reader.perform, Reader.take]
    cases found : exchange.reader.queue.take? with
    | none => exact ⟨exchange, .refl, rfl⟩
    | some taken => exact ⟨_, .step .refl (.handed found), rfl⟩

/-- Whatever a reader comes to by its operations, it comes to in single steps. -/
theorem exists_reaches_operations (operations : List Reader.Operation) :
    ∃ exchange, fresh.Reaches exchange ∧
      exchange.reader = operations.foldl Reader.perform .fresh := by
  -- The operations that are left may start from any exchange.
  have general : ∀ (operations : List Reader.Operation) (exchange : Exchange),
      ∃ after, exchange.Reaches after ∧
        after.reader = operations.foldl Reader.perform exchange.reader := by
    intro operations
    induction operations with
    | nil => exact fun exchange => ⟨exchange, .refl, rfl⟩
    | cons operation later ih =>
      intro exchange
      obtain ⟨middle, reached, same⟩ := exchange.exists_reaches_perform operation
      obtain ⟨after, further, last⟩ := ih middle
      exact ⟨after, reached.trans further, by rw [last, same, List.foldl_cons]⟩
  exact general operations fresh

end Exchange

/-- Whatever the order of the steps, the lines delivered and the lines that wait are the lines
accepted, in order and each once; these are the first lines of the stream, however it goes on, and
all of them are counted. A closed queue keeps its reason and gets no more lines. The consumer gets
the oldest line, or, once the queue is closed and empty, for ever the reason of the closing; no
error costs a line. Without a stop or a cancellation that reason is the end of the stream, and every
line of the stream has been delivered before. -/
theorem exchange_intact {exchange : Exchange} (reached : Exchange.fresh.Reaches exchange) :
    exchange.delivered ++ exchange.queue.waiting = exchange.accepted ∧
    (∀ more, (exchange.reader.ending.isSome = true → more = []) →
      exchange.accepted <+: lines (exchange.arrived ++ more)) ∧
    exchange.queue.received = exchange.delivered.length + exchange.queue.waiting.length ∧
    (∀ closing, exchange.queue.closing = some closing → ∀ later, exchange.Reaches later →
      later.queue.closing = some closing ∧
        later.queue.waiting <:+ exchange.queue.waiting) ∧
    (∀ entry after, exchange.Step (.handed entry) after →
      (∃ text, entry = .line text ∧ exchange.queue.waiting = text :: after.queue.waiting ∧
        after.delivered = exchange.delivered ++ [text]) ∨
      ∃ closing, exchange.queue.closing = some closing ∧ exchange.queue.waiting = [] ∧
        entry = closing.reason.entry ∧ after.queue = exchange.queue ∧
        (∀ later, after.Reaches later → later.queue.take? = some (entry, later.queue)) ∧
        (exchange.reader.stopped = false → exchange.reader.cancelled = false →
          exchange.reader.ending = some closing.reason ∧
            exchange.delivered = lines exchange.arrived)) ∧
    (∀ after, exchange.Step .givenUp after → after.reader = exchange.reader) := by
  have intact := reached.intact Exchange.intact_fresh
  refine ⟨intact.order, fun more last => ?_, ?_, fun closing closed later further =>
    further.closed_queue closed, fun entry after step => ?_, fun after step =>
    step.reader_of_givenUp⟩
  · rw [intact.cut more last]
    exact intact.early.trans (List.prefix_append _ _)
  · rw [intact.counted, ← intact.order, List.length_append]
  · obtain ⟨found, got⟩ := step.take?_of_handed
    rcases LineQueue.take?_cases found with
      ⟨text, rfl, waiting, -⟩ | ⟨closing, closed, empty, rfl, same⟩
    · exact .inl ⟨text, rfl, waiting, got⟩
    · refine .inr ⟨closing, closed, empty, rfl, same, fun later further => ?_,
        fun calm running => ?_⟩
      · exact further.exhausted (same ▸ closed) (same ▸ empty)
      · -- Nobody but the reader can have closed the queue, and it had pushed every line before.
        obtain ⟨atEnd, nothing, whole⟩ := intact.final closing closed calm running
        have all := intact.cut [] fun _ => rfl
        have order := intact.order
        rw [nothing, ← whole, ← order, empty] at all
        exact ⟨atEnd, by simpa using all.symm⟩

/-- A stop between the second and the third line: the first is delivered, the second still waits,
and the third is dropped. -/
theorem exchange_intact_stopped :
    let queue : LineQueue := ⟨[utf8 "b"], 2, some ⟨.ended, 1⟩⟩
    let exchange : Exchange := {
      reader := { Reader.fresh with
        queue := queue, ending := some .ended, started := true, stopped := true }
      arrived := utf8 "a\nb\nc"
      offered := [utf8 "a", utf8 "b", utf8 "c"]
      accepted := [utf8 "a", utf8 "b"]
      delivered := [utf8 "a"]
      waits := false }
    Exchange.fresh.Reaches exchange ∧ exchange.accepted <+: lines exchange.arrived ∧
      exchange.queue.received = exchange.delivered.length + 1 ∧
      ∀ later, exchange.Reaches later → later.queue.waiting <:+ [utf8 "b"] := by
  intro queue exchange
  have reached : Exchange.fresh.Reaches exchange := by
    have started : Exchange.fresh.Reaches _ := .step .refl .started
    have fed := started.step (.arrived (utf8 "a\nb\nc") rfl)
    have first := fed.step (.pushed rfl
      (by decide +kernel : Reader.nextPiece? _ = some (utf8 "a\n", utf8 "b\nc")))
    have second := first.step (.pushed rfl
      (by decide +kernel : Reader.nextPiece? _ = some (utf8 "b\n", utf8 "c")))
    have taken := second.step (.handed
      (by decide +kernel : LineQueue.take? _ = some (.line (utf8 "a"), ⟨[utf8 "b"], 2, none⟩)))
    have ended := (taken.step .stopped).step (.ended .ended rfl)
    exact ended.step (.pushed rfl
      (by decide +kernel : Reader.nextPiece? _ = some (utf8 "c", [])))
  obtain ⟨-, early, counted, kept, -, -⟩ := exchange_intact reached
  refine ⟨reached, ?_, counted, fun later further => ?_⟩
  · simpa using early [] fun _ => rfl
  · exact (kept ⟨.ended, 1⟩ rfl later further).2

end TapeMachine
