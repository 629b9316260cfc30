import TapeMachine.Proofs.Machine.FlatRefinement
import TapeMachine.Proofs.Machine.Growth
import TapeMachine.Proofs.Machine.Passage
import TapeMachine.Proofs.Machine.Safety

/-! What a machine puts out move by move, and the flush rule: whenever it waits for a line, its sink
has taken everything that it has put out before, and so it has at the end of a run unless it has
failed. -/

namespace TapeMachine

/-- Whether an event is neither an answer of the line source nor a delivery to the sink. -/
def Event.isQuiet : Event → Bool
  | delivered _ | read _ | readError _ => false
  | _ => true

/-- A quiet event brings nothing to the sink. -/
theorem Event.sunk_of_isQuiet {event : Event} (quiet : event.isQuiet = true) : event.sunk = [] := by
  cases event <;> first | rfl | cases quiet

/-- A quiet event is no answer of the line source. -/
theorem Event.handed_of_isQuiet {event : Event} (quiet : event.isQuiet = true) :
    event.handed = [] := by
  cases event <;> first | rfl | cases quiet

/-- A flush delivers nothing, or the sink has not failed before and takes a chunk or fails now. -/
theorem Writer.flush_cases (writer : Writer) :
    writer.flush = (writer, none) ∨ writer.failed = false ∧
      ((∃ after chunk, writer.flush = (after, some (.accepted chunk))) ∨
        ∃ after part, writer.flush = (after, some (.refused part)) ∧ after.failed = true) := by
  cases failed : writer.failed with
  -- A failed writer and an empty buffer deliver nothing; else the room decides.
  | true => exact .inl (by simp [flush, failed])
  | false =>
    by_cases empty : writer.buffer.isEmpty = true
    · exact .inl (by simp [flush, empty])
    · have busy : (writer.failed || writer.buffer.isEmpty) = false := by simp [failed, empty]
      refine .inr ⟨rfl, ?_⟩
      unfold flush
      rw [if_neg (by simp [busy])]
      cases writer.room with
      | none => exact .inl ⟨_, _, rfl⟩
      | some room =>
        by_cases enough : writer.buffer.size ≤ room
        · exact .inl ⟨_, _, if_pos enough⟩
        · exact .inr ⟨_, _, if_neg enough, rfl⟩

namespace Machine

section

variable (machine : Machine)

/-- What the next instruction puts out. Only output puts anything out: the current cell, and a line
end behind it in the debugger. -/
def instructionText : Bytes :=
  match machine.code with
  | .op _ .output _ => machine.tape.cell :: if machine.mode = .debugging then [newline] else []
  | _ => []

/-- Lines as they are printed, each with its end. -/
def linesText (lines : List Bytes) : Bytes := lines.flatMap fun line => line ++ [newline]

/-- What the console replies to a command that leaves the machine stopped. -/
def answerText (pos : Nat) (opcode : Opcode) : Command → Bytes
  | .code => linesText (Console.codeListing machine.listing pos)
  | .mem => linesText (Console.memoryDump machine.tape)
  | .info =>
    linesText [(Console.stateTable pos opcode machine.tape machine.mode machine.steps).render]
  | .help => linesText [utf8 Console.help]
  | .next | .exit => []

/-- What a line of console input makes the machine put out. Where it stops again, the prompt comes
last; else the next instruction has its say, outside the debugger if that has been left. -/
def commandText (pos : Nat) (opcode : Opcode) (line : Bytes) : Bytes :=
  let prompt := Console.prompt pos machine.tape.pointer opcode
  if trimBlank line = [] then prompt
  else match Command.parse? line with
  | none => linesText [Command.complaint line] ++ prompt
  | some .next => machine.instructionText
  | some .exit => { machine with mode := .running }.instructionText
  | some request => machine.answerText pos opcode request ++ prompt

/-- What the machine puts out when it is handed an entry. -/
def receiveText (entry : Entry) : Bytes :=
  match machine.status, machine.next?, entry with
  | .stopped, some (pos, opcode), .line line => machine.commandText pos opcode line
  | .stopped, some _, .ended _ => { machine with mode := .running }.instructionText
  | _, _, _ => []

/-- What the machine puts out when it waits for nobody: the prompt of the console, or what the next
instruction puts out. -/
def advanceText : Bytes :=
  match machine.next? with
  | none => []
  | some (pos, opcode) =>
    if machine.mode = .debugging then Console.prompt pos machine.tape.pointer opcode
    else machine.instructionText

/-- All output has reached the sink, and the sink has not failed. -/
def Flushed : Prop := machine.writer.failed = false ∧ machine.writer.buffer = #[]

/-- A machine that waits for a line has flushed its output, and so has one whose run has ended well;
at the end of any other run the sink may have failed. -/
def Settled : Prop :=
  match machine.status with
  | .ready => True
  | .stopped | .asking => machine.Flushed
  | .halted none => machine.Flushed
  | .halted (some _) => machine.writer.failed = true ∨ machine.writer.buffer = #[]

/-- The line source has not been asked for anything since the sink has failed. -/
structure Orderly : Prop where
  sound : machine.writer.failed = false → ∀ part, .delivered (.refused part) ∉ machine.journal
  silent : ∀ since part before, machine.journal = since ++ .delivered (.refused part) :: before →
    ∀ event ∈ since, event.handed = []

end

/-- On the way from one machine to the other a text is put out, unless the sink fails. A failure
stays, and the line source is not asked after it. -/
structure Emits (before : Machine) (text : Bytes) (after : Machine) : Prop where
  sticky : before.writer.failed = true → after.writer.failed = true
  added : after.writer.failed = false → after.emitted = before.emitted ++ text
  orderly : before.Orderly → after.Orderly

/-- A move puts out a text. The output is flushed where it has to be, and if the sink fails, the run
ends with an error. -/
structure Turn (before : Machine) (text : Bytes) (after : Machine) : Prop
    extends Emits before text after where
  settled : after.Settled
  broken : after.writer.failed = true →
    before.writer.failed = true ∨ ∃ error, after.status = .halted (some error)

/-- A byte is lost if the sink has failed or fails now; else it gets into the buffer. -/
theorem put_eq (machine : Machine) (byte : UInt8) :
    machine.put byte =
      if machine.writer.failed then machine
      else if machine.writer.buffer.size < bufferCapacity then machine.buffered byte
      else if machine.flush.writer.failed then machine.flush
      else machine.flush.buffered byte := by
  simp only [put, Writer.put]
  split
  -- A writer that has failed drops the byte.
  · rfl
  · split
    · rfl
    · -- Only a full buffer has to be flushed first.
      by_cases failed : machine.writer.flush.1.failed = true
      · simp only [failed, if_true, flush, deliver]
      · simp only [failed, if_false, Bool.false_eq_true, flush, deliver, buffered]

/-- A change of the mode leaves the output alone. -/
theorem writer_setMode (machine : Machine) (mode : Mode) :
    (machine.setMode mode).writer = machine.writer := by
  unfold setMode
  split <;> rfl

namespace Orderly

variable {machine : Machine}

/-- One more event is no harm if it is no answer, or if the sink has not failed. -/
theorem cons (orderly : machine.Orderly) {after : Machine} {event : Event}
    (journal : after.journal = event :: machine.journal)
    (sound : after.writer.failed = false →
      machine.writer.failed = false ∧ ∀ part, event ≠ .delivered (.refused part))
    (silent : event.handed = [] ∨ machine.writer.failed = false) : after.Orderly where
  sound fine part member := by
    obtain ⟨before, plain⟩ := sound fine
    rw [journal, List.mem_cons] at member
    rcases member with same | member
    · exact plain part same.symm
    · exact orderly.sound before part member
  silent since part before same := by
    rw [journal] at same
    -- The refusal is the new event, or it lies behind it.
    cases since with
    | nil => exact fun _ member => nomatch member
    | cons latest since =>
      obtain ⟨rfl, behind⟩ := List.cons.inj same
      have refused : Event.delivered (.refused part) ∈ machine.journal := by simp [behind]
      have unasked : event.handed = [] := by
        refine silent.resolve_right fun fine => ?_
        exact orderly.sound fine part refused
      intro other member
      rcases List.mem_cons.mp member with rfl | member
      · exact unasked
      · exact orderly.silent since part before behind other member

end Orderly

namespace Emits

variable {before machine after : Machine} {text : Bytes}

/-- Where nothing happens nothing is put out. -/
theorem refl (machine : Machine) : Emits machine [] machine :=
  ⟨id, fun _ => (List.append_nil _).symm, id⟩

/-- Nothing is put out by a change that leaves output and journal alone. -/
theorem other (emits : Emits before text machine) (writer : after.writer = machine.writer)
    (journal : after.journal = machine.journal) : Emits before text after where
  sticky failed := writer ▸ emits.sticky failed
  added sound := by
    rw [writer] at sound
    rw [← emits.added sound]
    simp only [emitted, told, events, journal, writer]
  orderly orderly := by
    obtain ⟨sound, silent⟩ := emits.orderly orderly
    exact ⟨by rw [writer, journal]; exact sound, by rw [journal]; exact silent⟩

/-- Writing down a quiet event puts out nothing. -/
theorem record (emits : Emits before text machine) {event : Event}
    (quiet : event.isQuiet = true) : Emits before text (machine.record event) where
  sticky := emits.sticky
  added sound := by
    rw [emitted_record _ (Event.sunk_of_isQuiet quiet)]
    exact emits.added sound
  orderly orderly := by
    refine (emits.orderly orderly).cons rfl (fun sound => ⟨sound, ?_⟩)
      (.inl (Event.handed_of_isQuiet quiet))
    rintro part rfl
    cases quiet

/-- The line source may be asked as long as the sink has not failed. -/
theorem recordEntry (emits : Emits before text machine) (sound : machine.writer.failed = false)
    (entry : Entry) : Emits before text (machine.recordEntry entry) := by
  have noted : ∀ event : Event, event.sunk = [] → (∀ part, event ≠ .delivered (.refused part)) →
      Emits before text (machine.record event) := by
    intro event sunk plain
    exact {
      sticky := emits.sticky
      added := fun sound => by
        rw [emitted_record _ sunk]
        exact emits.added sound
      orderly := fun orderly =>
        (emits.orderly orderly).cons rfl (fun sound => ⟨sound, plain⟩) (.inr sound) }
  cases entry <;> exact noted _ rfl (by simp)

/-- A flush puts out nothing new. -/
theorem flush (emits : Emits before text machine) : Emits before text machine.flush := by
  have kept : machine.writer.failed = true → machine.writer.flush.1.failed = true := by
    intro failed
    simp [Writer.flush, failed]
  refine ⟨fun failed => kept (emits.sticky failed), fun sound => ?_, fun orderly => ?_⟩
  · -- A flush only brings bytes from the buffer to the sink.
    rw [emitted_flush_eq]
    refine emits.added ?_
    by_contra failed
    have still := kept (by simpa using failed)
    rw [show machine.flush.writer.failed = machine.writer.flush.1.failed from rfl, still] at sound
    cases sound
  · -- Nothing is delivered, or a chunk is accepted, or the sink fails with this very event.
    have fine := emits.orderly orderly
    have unlike (chunk part : Bytes) :
        Event.delivered (.accepted chunk) ≠ .delivered (.refused part) := by simp
    rcases machine.writer.flush_cases with
      idle | ⟨sound, ⟨after, chunk, taken⟩ | ⟨after, part, refused, failed⟩⟩
    · rw [Machine.flush, idle]
      exact ⟨fine.sound, fine.silent⟩
    · rw [Machine.flush, taken]
      exact fine.cons rfl (fun _ => ⟨sound, unlike _⟩) (.inl rfl)
    · rw [Machine.flush, refused]
      refine fine.cons rfl (fun never => ?_) (.inl rfl)
      rw [show (machine.deliver (after, some (.refused part))).writer = after from rfl, failed]
        at never
      cases never

/-- A byte that gets into the buffer is put out behind what was there. -/
theorem buffered (emits : Emits before text machine) (byte : UInt8) :
    Emits before (text ++ [byte]) (machine.buffered byte) where
  sticky := emits.sticky
  added sound := by
    rw [← List.append_assoc, ← emits.added sound]
    -- What has been put out is what the sink holds and the buffer behind it.
    simp [emitted, Machine.buffered, told, events]
  orderly orderly := ⟨(emits.orderly orderly).sound, (emits.orderly orderly).silent⟩

/-- What is put out by a sink that has failed does not matter. -/
theorem lost (emits : Emits before text machine) (failed : machine.writer.failed = true)
    (other : Bytes) : Emits before other machine where
  sticky := emits.sticky
  added sound := by
    rw [failed] at sound
    cases sound
  orderly := emits.orderly

/-- A byte is put out behind what was there. -/
theorem put (emits : Emits before text machine) (byte : UInt8) :
    Emits before (text ++ [byte]) (machine.put byte) := by
  -- Where the sink has failed or fails with the flush, the byte is lost.
  rw [put_eq]
  split
  · exact emits.lost ‹_› _
  · split
    · exact emits.buffered byte
    · split
      · exact emits.flush.lost ‹_› _
      · exact emits.flush.buffered byte

/-- Bytes are put out in their order. -/
theorem print (bytes : Bytes) :
    ∀ {machine : Machine} {text : Bytes}, Emits before text machine →
      Emits before (text ++ bytes) (machine.print bytes) := by
  induction bytes with
  | nil =>
    intro machine text emits
    rwa [List.append_nil]
  | cons byte rest ih =>
    intro machine text emits
    -- The first byte is put out before the others.
    rw [List.append_cons]
    exact ih (emits.put byte)

/-- A line is put out with its end. -/
theorem printLine (bytes : Bytes) (emits : Emits before text machine) :
    Emits before (text ++ linesText [bytes]) (machine.printLine bytes) := by
  have ended := (emits.print bytes).put newline
  rw [List.append_assoc] at ended
  rwa [linesText, List.flatMap_singleton]

/-- Lines are put out in their order, each with its end. -/
theorem printLines (lines : List Bytes) :
    ∀ {machine : Machine} {text : Bytes}, Emits before text machine →
      Emits before (text ++ linesText lines) (machine.printLines lines) := by
  induction lines with
  | nil =>
    intro machine text emits
    rwa [linesText, List.flatMap_nil, List.append_nil]
  | cons line rest ih =>
    intro machine text emits
    -- The first line is put out before the others.
    have ended := ih (emits.printLine line)
    rw [linesText, List.flatMap_singleton, List.append_assoc] at ended
    rwa [linesText, List.flatMap_cons]

/-- A change of the mode puts out nothing. -/
theorem setMode (emits : Emits before text machine) (mode : Mode) :
    Emits before text (machine.setMode mode) := by
  unfold Machine.setMode
  split
  · exact emits
  -- A change is told of, and that is a quiet event.
  · have changed : Emits before text { machine with mode := mode } := emits.other rfl rfl
    exact changed.record rfl

/-- The start of an instruction puts out nothing. -/
theorem begin (emits : Emits before text machine) (pos : Nat) (opcode : Opcode) :
    Emits before text (machine.begin pos opcode) := by
  have noted (steps : Nat) : Emits before text (machine.record
      (.exec pos opcode steps machine.tape.pointer machine.tape.cell machine.mode)) :=
    emits.record rfl
  exact (noted _).other rfl rfl

/-- The console puts out its reply. -/
theorem answer (emits : Emits before text machine) (pos : Nat) (opcode : Opcode)
    (request : Command) :
    Emits before (text ++ machine.answerText pos opcode request)
      (machine.answer pos opcode request) := by
  cases request with
  -- Each reply is printed as its text says; two requests have none.
  | code => exact emits.printLines _
  | mem => exact emits.printLines _
  | info => exact emits.printLine _
  | help => exact emits.printLine _
  | next => rwa [answerText, List.append_nil]
  | exit => rwa [answerText, List.append_nil]

end Emits

namespace Turn

variable {before machine after : Machine} {text : Bytes}

/-- The run goes on, and the sink has not failed in this move. -/
theorem on (emits : Emits before text machine)
    (sound : machine.writer.failed = true → before.writer.failed = true)
    (writer : after.writer = machine.writer) (journal : after.journal = machine.journal)
    (ready : after.status = .ready) : Turn before text after where
  toEmits := emits.other writer journal
  settled := by simp [Settled, ready]
  broken failed := .inl (sound (writer ▸ failed))

/-- The machine waits for a line behind a flush that has not failed. -/
theorem waits (emits : Emits before text after) (sound : machine.flush.writer.failed = false)
    (writer : after.writer = machine.flush.writer)
    (waiting : after.status = .stopped ∨ after.status = .asking) : Turn before text after where
  toEmits := emits
  settled := by
    -- A flush that has not failed has emptied the buffer.
    have failing : ¬ machine.writer.flush.1.failed = true := by
      rw [show machine.writer.flush.1.failed = false from sound]
      exact Bool.false_ne_true
    have empty := machine.writer.flush_empties.resolve_left failing
    have flushed : after.Flushed := by
      rw [Flushed, writer]
      exact ⟨sound, empty⟩
    rcases waiting with status | status <;> simpa [Settled, status] using flushed
  broken failed := by
    rw [writer, sound] at failed
    cases failed

/-- The end of a run puts out nothing new, and leaves nothing in the buffer of a sound sink. -/
theorem finish (emits : Emits before text machine) (error : Option RunError) :
    Turn before text (machine.finish error) where
  toEmits := by
    have ended (status : Status) : Emits before text { machine.flush with status := status } :=
      emits.flush.other rfl rfl
    exact (ended _).record rfl
  settled := by
    -- The last flush empties the buffer or fails, and a failure is an error.
    have empties : machine.flush.writer.failed = true ∨ machine.flush.writer.buffer = #[] :=
      machine.writer.flush_empties
    cases failed : machine.flush.writer.failed with
    | false =>
      have empty := empties.resolve_left (by simp [failed])
      cases error <;> simp [Settled, Machine.finish, Machine.record, Flushed, failed, empty]
    | true =>
      cases error with
      | none => simp [Settled, Machine.finish, Machine.record, failed]
      | some error =>
        have empty := empties
        simpa [Settled, Machine.finish, Machine.record] using empty
  broken failed := by
    have full : machine.flush.writer.failed = true := failed
    -- A run that would have ended well ends with the error of the flush.
    cases error with
    | none => exact .inr ⟨.flush, by simp [Machine.finish, Machine.record, full]⟩
    | some error => exact .inr ⟨error, rfl⟩

/-- The console puts out its prompt in front of the next instruction. -/
theorem stop (emits : Emits before text machine) (pos : Nat) (opcode : Opcode) :
    Turn before (text ++ Console.prompt pos machine.tape.pointer opcode)
      (machine.stop pos opcode) := by
  simp only [Machine.stop]
  -- What the prompt says does not matter from here on.
  generalize Console.prompt pos machine.tape.pointer opcode = prompt
  have prompted := emits.print prompt
  split
  · exact finish prompted.flush _
  · rename_i sound
    exact waits (prompted.flush.other rfl rfl) (by simpa using sound) rfl (.inl rfl)

/-- A question for input puts out nothing, and leaves nothing in the buffer. -/
theorem ask (emits : Emits before text machine) : Turn before text machine.ask := by
  simp only [Machine.ask]
  split
  · exact finish emits.flush _
  · rename_i sound
    refine waits ?_ (by simpa using sound) ?_ (.inr rfl)
    · -- The prompt for input goes to the user and not to the sink.
      split
      · have prompted : Emits before text (machine.flush.record .prompted) :=
          emits.flush.record rfl
        exact prompted.other rfl rfl
      · exact emits.flush.other rfl rfl
    · split <;> rfl

section

variable (emits : Emits before text machine)
include emits

/-- The output instruction puts out the current cell, and a line end in the debugger. -/
theorem emit (rest : Code) :
    Turn before
      (text ++ machine.tape.cell :: if machine.mode = .debugging then [newline] else [])
      (machine.emit rest) := by
  have put := emits.put machine.tape.cell
  unfold Machine.emit
  dsimp only
  -- A sink that fails with the byte gets no line end.
  cases failed : (machine.put machine.tape.cell).writer.failed with
  | true =>
    simp only [Bool.not_true, Bool.false_and, Bool.false_eq_true, if_false, failed, if_true]
    exact finish (put.lost failed _) _
  | false =>
    have mode : (machine.put machine.tape.cell).mode = machine.mode := rfl
    simp only [Bool.not_false, Bool.true_and, mode, decide_eq_true_eq]
    by_cases debugging : machine.mode = .debugging
    · have ended : Emits before (text ++ [machine.tape.cell, newline])
          ((machine.put machine.tape.cell).put newline) := by simpa using put.put newline
      simp only [debugging, if_true]
      split
      · exact finish ended _
      · rename_i fine
        have noted := ended.record (rfl : (Event.output machine.tape.cell).isQuiet = true)
        exact on noted (fun broken => absurd broken fine) rfl rfl rfl
    · simp only [debugging, if_false, failed, Bool.false_eq_true]
      have noted := put.record (rfl : (Event.output machine.tape.cell).isQuiet = true)
      refine on noted (fun broken => ?_) rfl rfl rfl
      rw [show ((machine.put machine.tape.cell).record _).writer.failed = _ from failed] at broken
      cases broken

variable (sound : machine.writer.failed = true → before.writer.failed = true)
include sound

/-- A byte of input puts out nothing. -/
theorem store (byte : UInt8) (rest : Code) : Turn before text (machine.store byte rest) := by
  have written : Emits before text { machine with tape := machine.tape.write byte } :=
    emits.other rfl rfl
  have noted : Emits before text
      ({ machine with tape := machine.tape.write byte }.record (.input byte)) := written.record rfl
  exact on noted sound rfl rfl rfl

/-- A move of the pointer puts out nothing. -/
theorem move (pos : Nat) (action : Op) (moved : Except PointerFault Tape) (rest : Code) :
    Turn before text (machine.move pos action moved rest) := by
  cases moved with
  | ok tape => exact on emits sound rfl rfl rfl
  | error fault => exact finish emits _

/-- Executing an instruction puts out what that instruction says. -/
theorem execute (next : machine.code ≠ .done) :
    Turn before (text ++ machine.instructionText) machine.execute := by
  -- Only output puts anything out. The sink may fail there and where input is asked for.
  unfold Machine.execute instructionText
  cases code : machine.code with
  | done => exact absurd code next
  | loop pos body rest =>
    rw [List.append_nil]
    exact on (emits.begin pos .loop) sound rfl rfl rfl
  | op pos action rest =>
    have begun := emits.begin pos (.basic action)
    cases action with
    | moveRight =>
      rw [List.append_nil]
      exact move begun sound pos _ _ rest
    | moveLeft =>
      rw [List.append_nil]
      exact move begun sound pos _ _ rest
    | increment =>
      rw [List.append_nil]
      exact on begun sound rfl rfl rfl
    | decrement =>
      rw [List.append_nil]
      exact on begun sound rfl rfl rfl
    | output => exact emit begun rest
    | input =>
      simp only [operate, takeInput, List.append_nil]
      split
      · rename_i byte pending _
        have left : Emits before text
            { machine.begin pos (.basic .input) with pending := pending } := begun.other rfl rfl
        exact store left sound byte rest
      · exact ask begun
    | breakpoint =>
      have noted := (begun.record (rfl : (Event.breakpoint pos).isQuiet = true)).setMode .debugging
      rw [List.append_nil]
      exact on noted (by rw [writer_setMode]; exact sound) rfl rfl rfl

/-- An input instruction that hears an entry puts out nothing. -/
theorem receiveInput (rest : Code) (entry : Entry) :
    Turn before text (machine.receiveInput rest entry) := by
  cases entry with
  | line line =>
    -- A byte of the line is stored, or an empty line is passed over by asking again.
    simp only [Machine.receiveInput]
    split
    · exact store emits sound _ rest
    · rename_i byte more _
      have kept : Emits before text { machine with pending := more ++ [newline] } :=
        emits.other rfl rfl
      exact store kept sound byte rest
    · exact ask emits
    · exact store emits sound _ rest
  | ended report =>
    have noted : Emits before text (machine.record (.inputExhausted machine.tape.pointer)) :=
      emits.record rfl
    exact on noted sound rfl rfl rfl
  | failed reason => exact finish emits _
  | cancelled =>
    have cancelled : Emits before text machine.cancel := emits.other rfl rfl
    exact finish cancelled _

/-- A machine that has left the debugger executes the next instruction outside it. -/
theorem resume (next : machine.code ≠ .done) :
    Turn before (text ++ { machine with mode := .running }.instructionText)
      (machine.setMode .running).execute := by
  have switched := emits.setMode .running
  have kept := machine.untouched_setMode .running
  have running : (machine.setMode .running).mode = .running := by
    -- Whether the mode has to be changed or not, it is this one behind it.
    unfold Machine.setMode
    split
    · assumption
    · rfl
  have same : (machine.setMode .running).instructionText =
      { machine with mode := .running }.instructionText := by
    simp only [instructionText, kept.code, kept.tape, running]
  rw [← same]
  exact execute switched (by rw [writer_setMode]; exact sound) (by rw [kept.code]; exact next)

/-- A command puts out what the console has to say to it. -/
theorem command (next : machine.code ≠ .done) (pos : Nat) (opcode : Opcode) (line : Bytes) :
    Turn before (text ++ machine.commandText pos opcode line)
      (machine.command pos opcode line) := by
  have answered (request : Command) :
      Turn before (text ++ (machine.answerText pos opcode request ++
        Console.prompt pos machine.tape.pointer opcode))
        ((machine.answer pos opcode request).stop pos opcode) := by
    have stopped := stop (emits.answer pos opcode request) pos opcode
    rw [(machine.untouched_answer pos opcode request).tape] at stopped
    rwa [← List.append_assoc]
  -- The console prints before it stops again; two commands make the machine go on instead.
  unfold Machine.command commandText
  dsimp only
  split
  · exact stop emits pos opcode
  · cases Command.parse? line with
    | none =>
      have stopped := stop (emits.printLine (Command.complaint line)) pos opcode
      rw [(machine.untouched_printLine _).tape, List.append_assoc] at stopped
      exact stopped
    | some request =>
      cases request with
      | next => exact execute emits sound next
      | exit => exact resume emits sound next
      | code => exact answered .code
      | mem => exact answered .mem
      | info => exact answered .info
      | help => exact answered .help

end

end Turn

/-- What the line source has handed out makes no difference to the replies of the console. -/
theorem commandText_recordEntry (machine : Machine) (entry : Entry) (pos : Nat) (opcode : Opcode)
    (line : Bytes) :
    (machine.recordEntry entry).commandText pos opcode line =
      machine.commandText pos opcode line := by
  cases entry <;> rfl

/-- What a machine does that waits for nobody. -/
theorem turn_advance {machine : Machine} (ready : machine.status = .ready) :
    Turn machine machine.advanceText machine.advance := by
  -- In front of an instruction the debugger prints its prompt; the end of a sequence is silent.
  have start := Emits.refl machine
  cases code : machine.code with
  | done =>
    simp only [advance, advanceText, next?, code]
    cases machine.loops with
    | nil => exact .finish start none
    | cons innermost outer =>
      simp only [test]
      split
      -- A loop is left, begins another pass, or the run is cancelled.
      · exact .on start id rfl rfl ready
      · split
        · have checked : Emits machine []
              { machine with cancellation := machine.cancellation.check } := start.other rfl rfl
          exact .finish checked _
        · exact .on start id rfl rfl ready
  | op pos action rest =>
    simp only [advance, advanceText, next?, code]
    split
    · have stopped := Turn.stop start pos (.basic action)
      rwa [List.nil_append] at stopped
    · have executed := Turn.execute start id (by simp [code])
      rwa [List.nil_append] at executed
  | loop pos body rest =>
    simp only [advance, advanceText, next?, code]
    split
    · have stopped := Turn.stop start pos .loop
      rwa [List.nil_append] at stopped
    · have executed := Turn.execute start id (by simp [code])
      rwa [List.nil_append] at executed

/-- What a machine does that waits for a line. It may ask for one, since its sink has not failed. -/
theorem turn_receive {machine : Machine}
    (waiting : machine.status = .stopped ∨ machine.status = .asking) (flushed : machine.Flushed)
    (entry : Entry) : Turn machine (machine.receiveText entry) (machine.receive entry) := by
  have noted := (Emits.refl machine).recordEntry flushed.1 entry
  have writer : (machine.recordEntry entry).writer = machine.writer := by cases entry <;> rfl
  have status : (machine.recordEntry entry).status = machine.status := by cases entry <;> rfl
  have sound : (machine.recordEntry entry).writer.failed = true → machine.writer.failed = true := by
    rw [writer]
    exact id
  -- A machine that waits for nothing in particular only takes note.
  have idle : Turn machine [] (machine.recordEntry entry) := by
    refine ⟨noted, ?_, fun failed => .inl (sound failed)⟩
    have still : (machine.recordEntry entry).Flushed := by
      rw [Flushed, writer]
      exact flushed
    rcases waiting with same | same <;> simpa [Settled, status, same] using still
  -- The console hears the entry in front of the next instruction.
  have console (pos : Nat) (opcode : Opcode) (next : machine.next? = some (pos, opcode))
      (stopped : machine.status = .stopped) : Turn machine (machine.receiveText entry)
        ((machine.recordEntry entry).receiveCommand pos opcode entry) := by
    have behind : (machine.recordEntry entry).code ≠ .done := by
      rw [(machine.untouched_recordEntry entry).code]
      intro done
      simp [next?, done] at next
    simp only [receiveText, stopped, next]
    cases entry with
    | line line =>
      have heard := Turn.command noted sound behind pos opcode line
      rwa [List.nil_append, commandText_recordEntry] at heard
    | ended report =>
      have closed := noted.record (rfl : (Event.consoleClosed pos).isQuiet = true)
      have left := Turn.resume closed sound behind
      rwa [List.nil_append] at left
    | failed reason => exact .finish noted _
    | cancelled =>
      have cancelled : Emits machine [] (machine.recordEntry .cancelled).cancel :=
        noted.other rfl rfl
      exact .finish cancelled _
  rcases waiting with stopped | asking
  · cases code : machine.code with
    | done => simpa [receive, receiveText, next?, stopped, code] using idle
    | op pos action rest =>
      simpa only [receive, stopped, code] using
        console pos (.basic action) (by simp [next?, code]) stopped
    | loop pos body rest =>
      simpa only [receive, stopped, code] using console pos .loop (by simp [next?, code]) stopped
  · cases code : machine.code with
    | op pos action rest =>
      simpa only [receive, receiveText, asking, code] using Turn.receiveInput noted sound rest entry
    | done => simpa [receive, receiveText, asking, code] using idle
    | loop pos body rest => simpa [receive, receiveText, asking, code] using idle

end Machine

namespace Session

/-- What the next move puts out. -/
def utterance (session : Session) : Bytes :=
  match session.machine.status, session.handed? with
  | .ready, _ => session.machine.advanceText
  | _, some entry => session.machine.receiveText entry
  | _, none => []

/-- What one move does. -/
theorem turn_step {session : Session} (settled : session.machine.Settled) :
    session.machine.Turn session.utterance session.step.machine := by
  cases status : session.machine.status with
  | ready =>
    -- The move is made by the machine, or by an entry that it waits for.
    simp only [utterance, step, status]
    exact Machine.turn_advance status
  | stopped =>
    simp only [Machine.Settled, status] at settled
    simp only [utterance, handed?, step, status, handOver_eq]
    exact Machine.turn_receive (.inl status) settled _
  | asking =>
    simp only [Machine.Settled, status] at settled
    simp only [utterance, handed?, step, status, handOver_eq]
    exact Machine.turn_receive (.inr status) settled _
  | halted error =>
    simp only [utterance, handed?, step, status]
    exact ⟨.refl _, settled, .inl⟩

/-- The sessions that come from one by moves and further runs, with all that has been put out on the
way. -/
inductive Utters (start : Session) : Session → Bytes → Prop
  /-- Nothing has been put out yet. -/
  | refl : Utters start start []
  /-- One more move. -/
  | step {session : Session} {said : Bytes} : Utters start session said →
      Utters start session.step (said ++ session.utterance)
  /-- One more run. -/
  | rerun {session : Session} {said : Bytes} (cancellation : Cancellation) :
      Utters start session said → session.machine.isHalted = true →
      Utters start (session.rerun cancellation) said

/-- Whatever a session comes to, it has put something out on the way. -/
theorem Reaches.utters {start session : Session} (reached : start.Reaches session) :
    ∃ said, start.Utters session said := by
  -- Every move says something, and a further run begins in silence.
  induction reached with
  | refl => exact ⟨[], .refl⟩
  | step _ ih =>
    obtain ⟨said, utters⟩ := ih
    exact ⟨_, utters.step⟩
  | rerun cancellation _ halted ih =>
    obtain ⟨said, utters⟩ := ih
    exact ⟨said, utters.rerun cancellation halted⟩

/-- The sink and the buffer hold what has been put out, unless the sink has failed, and the output
is flushed where it has to be. -/
theorem Utters.settled {blueprint : Blueprint} {script : List Entry} {session : Session}
    {said : Bytes} (utters : Utters ⟨blueprint.machine, script⟩ session said) :
    session.machine.Settled ∧
      (session.machine.writer.failed = false → session.machine.emitted = said) := by
  -- Each move adds its own text; a further run starts with what the last one has left.
  induction utters with
  | refl => exact ⟨trivial, fun _ => rfl⟩
  | @step session said _ ih =>
    obtain ⟨settled, held⟩ := ih
    have turn := turn_step settled
    refine ⟨turn.settled, fun sound => ?_⟩
    -- A sink that has not failed now has not failed before.
    have before : session.machine.writer.failed = false := by
      by_contra failed
      rw [turn.sticky (by simpa using failed)] at sound
      cases sound
    rw [turn.added sound, held before]
  | rerun cancellation _ _ ih => exact ⟨trivial, ih.2⟩

end Session

/-- Output is always visible before the program waits. Whatever a fresh machine comes to, in any
number of runs, it has put something out on the way. Whenever the line source is asked for a line,
the buffer is empty and the sink has taken just that, byte by byte; and at the end of a run the same
holds unless the sink has failed. -/
theorem output_visible_before_wait (blueprint : Blueprint) (script : List Entry)
    {session : Session} (reached : Session.Reaches ⟨blueprint.machine, script⟩ session) :
    (∃ said, Session.Utters ⟨blueprint.machine, script⟩ session said) ∧
      ∀ said, Session.Utters ⟨blueprint.machine, script⟩ session said →
        (session.handed? ≠ none → session.machine.Flushed ∧
          session.machine.told Event.sunk = said) ∧
        (session.machine.isHalted = true → session.machine.writer.failed = true ∨
          session.machine.Flushed ∧ session.machine.told Event.sunk = said) := by
  refine ⟨reached.utters, fun said utters => ?_⟩
  obtain ⟨settled, held⟩ := utters.settled
  -- With an empty buffer, all that has been put out is in the sink.
  have sunk (flushed : session.machine.Flushed) : session.machine.told Event.sunk = said := by
    have whole := held flushed.1
    rwa [Machine.emitted, flushed.2, List.append_nil] at whole
  constructor
  · intro asked
    -- Only a machine that waits is handed anything, and it has flushed before.
    have flushed : session.machine.Flushed := by
      cases status : session.machine.status with
      | ready => simp [Session.handed?, status] at asked
      | halted error => simp [Session.handed?, status] at asked
      | stopped => simpa [Machine.Settled, status] using settled
      | asking => simpa [Machine.Settled, status] using settled
    exact ⟨flushed, sunk flushed⟩
  · intro ended
    -- A run that is over has flushed at its end.
    cases failed : session.machine.writer.failed with
    | true => exact .inl rfl
    | false =>
      have flushed : session.machine.Flushed := by
        cases status : session.machine.status with
        | ready => simp [Machine.isHalted, status] at ended
        | stopped => simp [Machine.isHalted, status] at ended
        | asking => simp [Machine.isHalted, status] at ended
        | halted error =>
          cases error with
          | none => simpa [Machine.Settled, status] using settled
          | some error =>
            simp only [Machine.Settled, status] at settled
            exact ⟨failed, settled.resolve_left (by simp [failed])⟩
      exact .inr ⟨flushed, sunk flushed⟩

/-- A program stops in the console behind its breakpoint, lists its code, puts a byte out on a line
of its own and then waits for input. All of it is visible by then, in this order. -/
theorem output_visible_before_wait_console :
    let program : Program :=
      ⟨.op 0 .breakpoint (.op 1 .output (.op 2 .input .done)), 3, 0⟩
    let blueprint : Blueprint := { Blueprint.ofProgram program with tapeLength := 1 }
    let start : Session :=
      ⟨blueprint.machine, [.line (utf8 "c"), .line (utf8 "n"), .line (utf8 "q")]⟩
    let prompt (pos : Nat) (opcode : Opcode) := Console.prompt pos 0 opcode
    let said := prompt 1 (.basic .output) ++ (utf8 ".," ++ [newline]) ++
      prompt 1 (.basic .output) ++ [0, newline] ++ prompt 2 (.basic .input)
    let session := start.step.step.step.step.step.step
    start.Utters session said ∧ session.machine.status = .asking ∧ session.machine.Flushed ∧
      session.machine.told Event.sunk = said := by
  intro program blueprint start prompt said session
  -- Six moves, each with what it puts out.
  let texts : List Bytes := [start.utterance, start.step.utterance, start.step.step.utterance,
    start.step.step.step.utterance, start.step.step.step.step.utterance,
    start.step.step.step.step.step.utterance]
  have utters : start.Utters session (texts.foldl (· ++ ·) []) :=
    .step (.step (.step (.step (.step (.step .refl)))))
  have whole : texts.foldl (· ++ ·) [] = said := by decide +kernel
  rw [whole] at utters
  have reached : start.Reaches session := .step (.step (.step (.step (.step (.step .refl)))))
  have asking : session.machine.status = .asking := by decide +kernel
  have asked : session.handed? ≠ none := by simp [Session.handed?, asking]
  exact ⟨utters, asking,
    ((output_visible_before_wait blueprint _ reached).2 said utters).1 asked⟩

end TapeMachine
