import TapeMachine.Proofs.Machine.Place

/-! What a machine has written down and put out only grows, move by move, and a run that is over has
flushed its output. -/

namespace TapeMachine

namespace Machine

/-- Adds a byte to the buffer. -/
def buffered (machine : Machine) (byte : UInt8) : Machine :=
  { machine with
    writer := { machine.writer with buffer := machine.writer.buffer.push byte } }

/-- A byte finds its place in the buffer, perhaps behind a flush, or is lost to a failed sink. -/
theorem put_cases (machine : Machine) (byte : UInt8) :
    machine.put byte = machine ∨ machine.put byte = machine.buffered byte ∨
      machine.put byte = machine.flush ∨ machine.put byte = machine.flush.buffered byte := by
  simp only [put, Writer.put]
  split
  · -- The sink has failed before.
    exact .inl rfl
  · split
    · exact .inr (.inl rfl)
    · -- The buffer is full, and flushing it may fail.
      split
      · exact .inr (.inr (.inl rfl))
      · exact .inr (.inr (.inr rfl))

/-- What has been written down and put out grows from one machine to the other: events are written
down, bytes are added to the buffer and the buffer is flushed. Everything else may change. -/
inductive Grows (start : Machine) : Machine → Prop
  /-- Nothing happens. -/
  | refl : Grows start start
  /-- An event is written down that brings nothing to the sink. -/
  | record {machine : Machine} (grows : Grows start machine) {event : Event}
      (quiet : event.sunk = []) : Grows start (machine.record event)
  /-- The buffer is flushed. -/
  | flush {machine : Machine} (grows : Grows start machine) : Grows start machine.flush
  /-- A byte is added to the buffer. -/
  | buffered {machine : Machine} (grows : Grows start machine) (byte : UInt8) :
      Grows start (machine.buffered byte)
  /-- Neither the journal nor the output changes. -/
  | other {machine after : Machine} (grows : Grows start machine)
      (writer : after.writer = machine.writer) (journal : after.journal = machine.journal) :
      Grows start after

/-- What a move comes to: the run goes on, or it is over. -/
inductive Outcome (before : Machine) : Machine → Prop
  /-- The run goes on. -/
  | on {after : Machine} (grows : Grows before after) (running : after.isHalted = false) :
      Outcome before after
  /-- The run is over, and nobody has cancelled it. -/
  | ended {last : Machine} (grows : Grows before last) {error : Option RunError}
      (own : error ≠ some .cancelled) : Outcome before (last.finish error)
  /-- The run has been cancelled before a loop could begin a pass. -/
  | cancelled {last : Machine} (grows : Grows before last)
      (seen : before.cancellation.check.cancelled = true) :
      Outcome before (last.finish (some .cancelled))

namespace Grows

variable {first second third machine start : Machine}

/-- What grows twice, grows. -/
theorem trans (early : Grows first second) (late : Grows second third) : Grows first third := by
  -- What happens later happens to what has grown before.
  induction late with
  | refl => exact early
  | record _ quiet ih => exact ih.record quiet
  | flush _ ih => exact ih.flush
  | buffered _ byte ih => exact ih.buffered byte
  | other _ writer journal ih => exact ih.other writer journal

/-- A byte is put out. -/
theorem put (grows : Grows start machine) (byte : UInt8) : Grows start (machine.put byte) := by
  -- The byte is lost, buffered, lost with a flush, or buffered behind one.
  rcases machine.put_cases byte with result | result | result | result <;> rw [result]
  · exact grows
  · exact grows.buffered byte
  · exact grows.flush
  · exact grows.flush.buffered byte

/-- Bytes are put out one after the other. -/
theorem print (bytes : Bytes) :
    ∀ {machine : Machine}, Grows start machine → Grows start (machine.print bytes) := by
  induction bytes with
  | nil => exact id
  | cons byte rest ih => exact fun grows => ih (grows.put byte)

/-- A line is put out with its end. -/
theorem printLine (bytes : Bytes) (grows : Grows start machine) :
    Grows start (machine.printLine bytes) :=
  (grows.print bytes).put newline

/-- Lines are put out one after the other. -/
theorem printLines (lines : List Bytes) :
    ∀ {machine : Machine}, Grows start machine → Grows start (machine.printLines lines) := by
  induction lines with
  | nil => exact id
  | cons line rest ih => exact fun grows => ih (grows.printLine line)

/-- A change of the mode is written down. -/
theorem setMode (mode : Mode) (grows : Grows start machine) :
    Grows start (machine.setMode mode) := by
  unfold Machine.setMode
  split
  · exact grows
  -- A mode that is set already is not written down again.
  · have changed : Grows start { machine with mode := mode } := grows.other rfl rfl
    exact changed.record rfl

/-- The end of a run is written down behind a last flush. -/
theorem finish (error : Option RunError) (grows : Grows start machine) :
    Grows start (machine.finish error) := by
  -- The checkpoint is written down behind the last bytes.
  have ended (status : Status) : Grows start { machine.flush with status := status } :=
    grows.flush.other rfl rfl
  exact (ended _).record rfl

/-- The start of an instruction is written down. -/
theorem begin (pos : Nat) (opcode : Opcode) (grows : Grows start machine) :
    Grows start (machine.begin pos opcode) := by
  have noted (steps : Nat) : Grows start (machine.record
      (.exec pos opcode steps machine.tape.pointer machine.tape.cell machine.mode)) :=
    grows.record rfl
  exact (noted _).other rfl rfl

/-- What the line source answers is written down. -/
theorem recordEntry (entry : Entry) (grows : Grows start machine) :
    Grows start (machine.recordEntry entry) := by
  cases entry <;> exact grows.record rfl

/-- The console puts out its reply. -/
theorem answer (pos : Nat) (opcode : Opcode) (request : Command) (grows : Grows start machine) :
    Grows start (machine.answer pos opcode request) := by
  cases request with
  -- Each reply is a list of lines or a single one; two requests have none.
  | code => exact grows.printLines _
  | mem => exact grows.printLines _
  | info => exact grows.printLine _
  | help => exact grows.printLine _
  | next => exact grows
  | exit => exact grows

end Grows

/-- A change of the mode does not end the run. -/
theorem isHalted_setMode (machine : Machine) (mode : Mode) :
    (machine.setMode mode).isHalted = machine.isHalted := by
  unfold setMode
  split <;> rfl

namespace Outcome

variable {before machine : Machine}

/-- Whatever a move comes to, what has been written down and put out has grown. -/
theorem grows {after : Machine} (outcome : Outcome before after) : Grows before after := by
  cases outcome with
  | on grows running => exact grows
  | ended grows own => exact grows.finish _
  | cancelled grows seen => exact grows.finish _

/-- The run goes on behind the prompt of the console, unless the sink fails. -/
theorem stop (grows : Grows before machine) (pos : Nat) (opcode : Opcode) :
    Outcome before (machine.stop pos opcode) := by
  have prompted := (grows.print (Console.prompt pos machine.tape.pointer opcode)).flush
  simp only [Machine.stop]
  -- What the prompt says does not matter from here on.
  generalize (machine.print (Console.prompt pos machine.tape.pointer opcode)).flush = shown at *
  split
  · exact .ended prompted (by simp)
  · exact .on (prompted.other rfl rfl) rfl

/-- The run goes on behind a question for input, unless the sink fails. -/
theorem ask (grows : Grows before machine) : Outcome before machine.ask := by
  have flushed := grows.flush
  simp only [Machine.ask]
  split
  · exact .ended flushed (by simp)
  · -- The user may be asked; that is written down, but brings nothing to the sink.
    split
    · have prompted : Grows before (machine.flush.record .prompted) := flushed.record rfl
      exact .on (prompted.other rfl rfl) rfl
    · exact .on (flushed.other rfl rfl) rfl

/-- The run goes on with other code. -/
theorem proceed (grows : Grows before machine) (rest : Code) :
    Outcome before (machine.proceed rest) :=
  .on (grows.other rfl rfl) rfl

/-- The run goes on with another tape. -/
theorem write (grows : Grows before machine) (tape : Tape) (rest : Code) :
    Outcome before ({ machine with tape := tape }.proceed rest) :=
  .on (grows.other rfl rfl) rfl

/-- The run goes on behind a byte of input. -/
theorem store (grows : Grows before machine) (byte : UInt8) (rest : Code) :
    Outcome before (machine.store byte rest) := by
  have written : Grows before { machine with tape := machine.tape.write byte } :=
    grows.other rfl rfl
  have noted : Grows before
      ({ machine with tape := machine.tape.write byte }.record (.input byte)) :=
    written.record rfl
  exact proceed noted rest

/-- The run goes on behind a move of the pointer, unless it would leave the tape. -/
theorem move (grows : Grows before machine) (pos : Nat) (action : Op)
    (moved : Except PointerFault Tape) (rest : Code) :
    Outcome before (machine.move pos action moved rest) := by
  cases moved with
  -- A fault of the pointer is an error of the run itself.
  | ok tape => exact write grows tape rest
  | error fault => exact .ended grows (by simp)

/-- The run goes on behind a byte that is put out, unless the sink fails. -/
theorem emit (grows : Grows before machine) (rest : Code) :
    Outcome before (machine.emit rest) := by
  unfold Machine.emit
  -- The debugger adds a line end behind the byte.
  extract_lets byte put written
  have written : Grows before written := by
    simp only [written]
    split
    · exact (grows.put _).put _
    · exact grows.put _
  split
  · exact .ended written (by simp)
  · have noted := written.record (rfl : (Event.output byte).sunk = [])
    exact proceed noted rest

/-- An operation lets the run go on, or ends it with an error of its own. -/
theorem operate (grows : Grows before machine) (pos : Nat) (action : Op) (rest : Code) :
    Outcome before (machine.operate pos action rest) := by
  -- A move off the tape and a failing sink end the run; input without a pending byte has to wait.
  cases action with
  | moveRight => exact move grows pos _ _ rest
  | moveLeft => exact move grows pos _ _ rest
  | increment => exact write grows _ rest
  | decrement => exact write grows _ rest
  | output => exact emit grows rest
  | input =>
    simp only [Machine.operate, takeInput]
    split
    · rename_i byte pending _
      have left : Grows before { machine with pending := pending } := grows.other rfl rfl
      exact store left byte rest
    · exact ask grows
  | breakpoint =>
    have noted : Grows before (machine.record (.breakpoint pos)) := grows.record rfl
    exact proceed (noted.setMode _) rest

/-- The next instruction lets the run go on, or ends it with an error of its own. -/
theorem execute (grows : Grows before machine) (running : machine.isHalted = false) :
    Outcome before machine.execute := by
  unfold Machine.execute
  split
  -- An operation may end the run, and the start of a loop does not.
  · exact .on grows running
  · exact operate (grows.begin _ _) _ _ _
  · rename_i pos body rest _
    exact .on ((grows.begin pos .loop).other rfl rfl) rfl

/-- An input instruction that hears an entry lets the run go on, or ends it. -/
theorem receiveInput (grows : Grows before machine) (rest : Code) (entry : Entry) :
    Outcome before (machine.receiveInput rest entry) := by
  cases entry with
  | line text =>
    simp only [Machine.receiveInput]
    split
    -- A byte of the line is stored, or an empty line is passed over by asking again.
    · exact store grows _ rest
    · rename_i byte more _
      have kept : Grows before { machine with pending := more ++ [newline] } :=
        grows.other rfl rfl
      exact store kept byte rest
    · exact ask grows
    · exact store grows _ rest
  | ended report =>
    have noted : Grows before (machine.record (.inputExhausted machine.tape.pointer)) :=
      grows.record rfl
    exact proceed noted rest
  | failed reason => exact .ended grows (by simp)
  | cancelled =>
    have cancelled : Grows before machine.cancel := grows.other rfl rfl
    exact .ended cancelled (by simp)

/-- A command of the console lets the run go on, or ends it. -/
theorem command (grows : Grows before machine) (running : machine.isHalted = false) (pos : Nat)
    (opcode : Opcode) (line : Bytes) : Outcome before (machine.command pos opcode line) := by
  unfold Machine.command
  -- Whatever the line says, the machine stops again or executes the next instruction.
  split
  · exact stop grows pos opcode
  · split
    · exact stop (grows.printLine _) pos opcode
    · exact execute grows running
    · exact execute (grows.setMode _) ((isHalted_setMode _ _).trans running)
    · exact stop (grows.answer pos opcode _) pos opcode

/-- A console that hears an entry lets the run go on, or ends it. -/
theorem receiveCommand (grows : Grows before machine) (running : machine.isHalted = false)
    (pos : Nat) (opcode : Opcode) (entry : Entry) :
    Outcome before (machine.receiveCommand pos opcode entry) := by
  cases entry with
  -- Behind the end of the console input the run goes on outside the debugger.
  | line text => exact command grows running pos opcode text
  | ended report =>
    have closed : Grows before (machine.record (.consoleClosed pos)) := grows.record rfl
    exact execute (closed.setMode _) ((isHalted_setMode _ _).trans running)
  | failed reason => exact .ended grows (by simp)
  | cancelled =>
    have cancelled : Grows before machine.cancel := grows.other rfl rfl
    exact .ended cancelled (by simp)

end Outcome

/-- What a machine comes to that waits for nobody. -/
theorem outcome_advance {machine : Machine} (ready : machine.status = .ready) :
    Outcome machine machine.advance := by
  have running : machine.isHalted = false := by simp [isHalted, ready]
  have start : Grows machine machine := .refl
  unfold advance
  split
  · split
    -- Without a loop around it the end of a sequence is the end of the run.
    · exact .ended start (by simp)
    · -- A loop is left, begins another pass, or is cancelled.
      simp only [test]
      split
      · exact .on (start.other rfl rfl) running
      · split
        · have checked : Grows machine
              { machine with cancellation := machine.cancellation.check } := start.other rfl rfl
          rename_i seen
          exact .cancelled checked seen
        · exact .on (start.other rfl rfl) running
  · split
    · exact .stop start _ _
    · exact .execute start running
  · split
    · exact .stop start _ _
    · exact .execute start running

/-- What a machine comes to that waits for a line. -/
theorem outcome_receive {machine : Machine} (running : machine.isHalted = false) (entry : Entry) :
    Outcome machine (machine.receive entry) := by
  have noted : Grows machine (machine.recordEntry entry) := Grows.refl.recordEntry entry
  have still : (machine.recordEntry entry).isHalted = false := by cases entry <;> exact running
  unfold receive
  dsimp only
  split
  -- The console hears the entry, or an input instruction does.
  · exact .receiveCommand noted still _ _ entry
  · exact .receiveCommand noted still _ _ entry
  · exact .receiveInput noted _ entry
  · exact .on noted still

end Machine

namespace Writer

/-- What a flush delivers and what it leaves in the buffer is what was in the buffer. -/
theorem flush_conserves (writer : Writer) :
    (writer.flush.2.toList.flatMap Delivery.bytes) ++ writer.flush.1.buffer.toList =
      writer.buffer.toList := by
  unfold flush
  split
  · rfl
  · split
    · simp [Delivery.bytes]
    · rename_i room _
      split
      · simp [Delivery.bytes]
      · -- The sink has taken the first bytes, and the others stay in the buffer.
        have left : (writer.buffer.extract room).toList = writer.buffer.toList.drop room := by
          rw [Array.toList_extract, List.extract_eq_take_drop, List.take_of_length_le (by simp)]
        rw [left]
        simp [Delivery.bytes]

/-- Behind a flush the buffer is empty, unless the sink has failed. -/
theorem flush_empties (writer : Writer) :
    writer.flush.1.failed = true ∨ writer.flush.1.buffer = #[] := by
  unfold flush
  split
  · rename_i idle
    simpa using idle
  · split
    · exact .inr rfl
    · split
      · exact .inr rfl
      · exact .inl rfl

end Writer

namespace Machine

/-- A flush puts out nothing new. -/
theorem emitted_flush_eq (machine : Machine) : machine.flush.emitted = machine.emitted := by
  have same := machine.writer.flush_conserves
  simp only [emitted, flush, told_deliver, Event.sunk, List.append_assoc]
  exact congrArg _ same

/-- A sink with a limit: it has room for what it has not taken yet, and when it has failed it has
taken all that it can. -/
structure Metered (limit : Nat) (machine : Machine) : Prop where
  room : machine.writer.room = some (limit - (machine.told Event.sunk).length)
  fits : (machine.told Event.sunk).length ≤ limit
  spent : machine.writer.failed = true → (machine.told Event.sunk).length = limit

/-- The account is kept while the sink gets nothing. -/
theorem Metered.of_eq {limit : Nat} {machine after : Machine} (metered : Metered limit machine)
    (sunk : after.told Event.sunk = machine.told Event.sunk)
    (room : after.writer.room = machine.writer.room)
    (failed : after.writer.failed = machine.writer.failed) : Metered limit after where
  room := by rw [room, sunk]; exact metered.room
  fits := by rw [sunk]; exact metered.fits
  spent := by rw [failed, sunk]; exact metered.spent

/-- A delivery is on the account if the writer has counted it. -/
theorem metered_deliver {limit : Nat} {machine : Machine} {writer : Writer} {delivery : Delivery}
    (room : writer.room =
      some (limit - ((machine.told Event.sunk).length + delivery.bytes.length)))
    (fits : (machine.told Event.sunk).length + delivery.bytes.length ≤ limit)
    (spent : writer.failed = true →
      (machine.told Event.sunk).length + delivery.bytes.length = limit) :
    Metered limit (machine.deliver (writer, some delivery)) := by
  have taken : ((machine.deliver (writer, some delivery)).told Event.sunk).length =
      (machine.told Event.sunk).length + delivery.bytes.length := by
    simp [told_deliver, Event.sunk]
  exact ⟨by rw [taken]; exact room, by rw [taken]; exact fits, by rw [taken]; exact spent⟩

/-- A flush keeps account of the bytes that the sink takes. -/
theorem Metered.flush {limit : Nat} {machine : Machine} (metered : Metered limit machine) :
    Metered limit machine.flush := by
  obtain ⟨room, fits, spent⟩ := metered
  unfold Machine.flush Writer.flush
  rw [room]
  split
  · -- An empty buffer is not delivered, and a failed sink is not tried again.
    exact ⟨room, fits, spent⟩
  · rename_i busy
    have sound : machine.writer.failed = false := by
      simp only [Bool.or_eq_true, not_or, Bool.not_eq_true] at busy
      exact busy.1
    dsimp only
    split
    · rename_i enough
      refine metered_deliver ?_ ?_ ?_
      · simp only [Delivery.bytes, Array.length_toList, Nat.sub_sub]
      · simp only [Delivery.bytes, Array.length_toList]
        omega
      · simp [sound]
    · -- The sink takes as much as it can.
      rename_i short
      refine metered_deliver ?_ ?_ ?_
      · simp only [Delivery.bytes, List.length_take, Array.length_toList, Option.some.injEq]
        omega
      · simp only [Delivery.bytes, List.length_take, Array.length_toList]
        omega
      · simp only [Delivery.bytes, List.length_take, Array.length_toList]
        omega

/-- The sink has the room that it was given, less what it has taken. -/
def Measured : Option Nat → Machine → Prop
  | none, machine => machine.writer.Unlimited
  | some limit, machine => Metered limit machine

namespace Grows

variable {start after : Machine}

/-- Whatever the events tell, they go on telling. -/
theorem told_extends {α : Type} (grows : Grows start after) (view : Event → List α) :
    start.told view <+: after.told view := by
  -- The journal is only ever added to.
  induction grows with
  | refl => exact List.prefix_refl _
  | record _ quiet ih =>
    rw [told_record]
    exact ih.trans (List.prefix_append _ _)
  | flush _ ih =>
    rw [Machine.flush, told_deliver]
    exact ih.trans (List.prefix_append _ _)
  | buffered _ byte ih => exact ih
  | @other machine after _ writer journal ih =>
    have same : after.told view = machine.told view := by simp only [told, events, journal]
    rw [same]
    exact ih

/-- What has been put out stays put out. -/
theorem emitted_extends (grows : Grows start after) : start.emitted <+: after.emitted := by
  -- A flush moves bytes from the buffer to the sink, and a new byte goes behind both.
  induction grows with
  | refl => exact List.prefix_refl _
  | record _ quiet ih =>
    rw [emitted_record _ quiet]
    exact ih
  | flush _ ih =>
    rw [emitted_flush_eq]
    exact ih
  | @buffered machine _ byte ih =>
    have added : (machine.buffered byte).emitted = machine.emitted ++ [byte] := by
      simp [emitted, Machine.buffered, told, events]
    rw [added]
    exact ih.trans (List.prefix_append _ _)
  | @other machine after _ writer journal ih =>
    have same : after.emitted = machine.emitted := by
      simp only [emitted, told, events, journal, writer]
    rw [same]
    exact ih

/-- The account of the sink is kept. -/
theorem measured (grows : Grows start after) {room : Option Nat} (measured : start.Measured room) :
    after.Measured room := by
  -- An endless sink stays endless, and one with a limit counts what it takes.
  induction grows with
  | refl => exact measured
  | record _ quiet ih =>
    cases room with
    | none => exact ih
    | some limit => exact Metered.of_eq ih (by simp [quiet]) rfl rfl
  | flush _ ih =>
    cases room with
    | none => exact Writer.Unlimited.flush ih
    | some limit => exact Metered.flush ih
  | buffered _ byte ih =>
    cases room with
    | none => exact ⟨ih.endless, ih.sound⟩
    | some limit => exact Metered.of_eq ih rfl rfl rfl
  | @other machine after _ writer journal ih =>
    cases room with
    | none => exact ⟨writer ▸ ih.endless, writer ▸ ih.sound⟩
    | some limit =>
      exact Metered.of_eq ih (by simp only [told, events, journal]) (by rw [writer])
        (by rw [writer])

end Grows

/-- A run that is over has flushed its output, as far as the sink could take it. -/
theorem Outcome.settled {before after : Machine} (outcome : Outcome before after)
    (halted : after.isHalted = true) : after.writer.failed = true ∨ after.writer.buffer = #[] := by
  cases outcome with
  | on _ running =>
    -- Both ways for a run to end go through a last flush.
    rw [running] at halted
    cases halted
  | @ended last _ error _ => exact last.writer.flush_empties
  | @cancelled last _ _ => exact last.writer.flush_empties

/-- A run that goes on has no error. -/
theorem error?_of_running {machine : Machine} (running : machine.isHalted = false) :
    machine.error? = none := by
  unfold isHalted at running
  unfold error?
  cases status : machine.status with
  | halted error => simp [status] at running
  | _ => rfl

/-- A run that nobody cancels does not end as a cancelled one. -/
theorem Outcome.error_ne_cancelled {before after : Machine} (outcome : Outcome before after)
    (calm : before.cancellation = .never) : after.error? ≠ some .cancelled := by
  cases outcome with
  -- An error of the run itself is another one, and a check does not see a cancellation.
  | on _ running => simp [error?_of_running running]
  | @ended last _ error own =>
    simp only [error?, finish, record]
    split
    · simp
    · exact own
  | cancelled _ seen =>
    rw [calm] at seen
    cases seen

/-- If all that one machine has brought to its sink has been put out by another one, whose run is
over, then that one has brought it to its sink, too. -/
theorem sunk_prefix_of_settled {early late : Machine} {room : Option Nat}
    (first : early.Measured room) (second : late.Measured room)
    (settled : late.writer.failed = true ∨ late.writer.buffer = #[])
    (sent : early.told Event.sunk <+: late.emitted) :
    early.told Event.sunk <+: late.told Event.sunk := by
  by_cases empty : late.writer.buffer = #[]
  -- With an empty buffer all that has been put out is in the sink.
  · simpa [emitted, empty] using sent
  · -- The sink of the later run has failed, so it has taken all that any such sink can take.
    have failed := settled.resolve_right empty
    cases room with
    | none =>
      have sound := second.sound
      rw [failed] at sound
      cases sound
    | some limit =>
      refine List.prefix_of_prefix_length_le sent (List.prefix_append _ _) ?_
      rw [second.spent failed]
      exact first.fits

end Machine

namespace Session

/-- What one move comes to. -/
theorem outcome_step {session : Session} (running : session.machine.isHalted = false) :
    session.machine.Outcome session.step.machine := by
  have handed : session.machine.Outcome session.handOver.machine := by
    unfold handOver
    split <;> exact Machine.outcome_receive running _
  unfold step
  split
  · rename_i ready
    exact Machine.outcome_advance ready
  · exact handed
  · exact handed
  · exact .on .refl running

/-- What has been written down and put out grows with every move. -/
theorem grows_step (session : Session) : session.machine.Grows session.step.machine := by
  cases running : session.machine.isHalted with
  | false => exact (outcome_step running).grows
  | true =>
    rw [step_of_halted running]
    exact .refl

/-- What has been written down and put out grows all the time. -/
theorem grows_iterate (session : Session) (moves : Nat) :
    session.machine.Grows (step^[moves] session).machine := by
  induction moves with
  -- Growth is transitive, so it is enough to look at the last move.
  | zero => exact .refl
  | succ moves ih =>
    rw [Function.iterate_succ_apply']
    exact ih.trans (grows_step _)

/-- What has been written down and put out later has grown from what was there before. -/
theorem grows_of_le (session : Session) {early late : Nat} (le : early ≤ late) :
    (step^[early] session).machine.Grows (step^[late] session).machine := by
  obtain ⟨rest, rfl⟩ := Nat.exists_eq_add_of_le' le
  rw [Function.iterate_add_apply]
  exact grows_iterate _ rest

/-- A run that has come to its end has flushed its output, as far as the sink could take it. -/
theorem settled_iterate {session : Session} (running : session.machine.isHalted = false)
    (moves : Nat) (halted : (step^[moves] session).machine.isHalted = true) :
    (step^[moves] session).machine.writer.failed = true ∨
      (step^[moves] session).machine.writer.buffer = #[] := by
  induction moves with
  | zero =>
    rw [Function.iterate_zero, id, running] at halted
    cases halted
  | succ moves ih =>
    rw [Function.iterate_succ_apply'] at halted ⊢
    -- The last move ends the run, or the run was over before.
    cases before : (step^[moves] session).machine.isHalted with
    | false => exact (outcome_step before).settled halted
    | true =>
      rw [step_of_halted before]
      exact ih before

end Session

/-- The sink of a fresh machine has the room that it was given. -/
theorem Blueprint.measured (blueprint : Blueprint) :
    blueprint.machine.Measured blueprint.room := by
  cases room : blueprint.room with
  | none => exact ⟨room, rfl⟩
  | some limit => exact ⟨room, Nat.zero_le _, fun failed => nomatch failed⟩

end TapeMachine
