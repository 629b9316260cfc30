import TapeMachine.Proofs.Machine.Emission

/-! A sink that takes only so many bytes: the run is the one on an endless sink until the sink
fails, the sink takes the first bytes of that run, and a failure ends the run before it asks for a
line. -/

namespace TapeMachine

namespace Machine

/-- The same machine in front of a sink with another room. -/
def onRoom (machine : Machine) (room : Option Nat) : Machine :=
  { machine with writer := { machine.writer with room } }

/-- The same machine in front of a sink with a limit that has taken what its own sink has taken. -/
def within (machine : Machine) (limit : Nat) : Machine :=
  machine.onRoom (some (limit - (machine.told Event.sunk).length))

/-- An endless sink that has taken no more than a sink with a limit could have. -/
structure Roomy (limit : Nat) (machine : Machine) : Prop where
  unlimited : machine.writer.Unlimited
  fits : (machine.told Event.sunk).length ≤ limit

/-- A sink that has failed at its limit, while the endless one has taken more. -/
structure CutOff (limit : Nat) (machine whole : Machine) : Prop where
  failed : machine.writer.failed = true
  sunk : machine.told Event.sunk = (whole.told Event.sunk).take limit
  more : limit < (whole.told Event.sunk).length

/-- A move does the same in front of a sink with a limit and in front of an endless one, or the
limit is passed and the sink fails. -/
def Curbed (limit : Nat) (move : Machine → Machine) (machine : Machine) : Prop :=
  Roomy limit machine →
    (Roomy limit (move machine) ∧ move (machine.within limit) = (move machine).within limit) ∨
      CutOff limit (move (machine.within limit)) (move machine)

/-- A move that delivers nothing does not look at the room of the sink. -/
structure Idle (move : Machine → Machine) (machine : Machine) : Prop where
  sunk : (move machine).told Event.sunk = machine.told Event.sunk
  unlimited : machine.writer.Unlimited → (move machine).writer.Unlimited
  same : ∀ room, move (machine.onRoom room) = (move machine).onRoom room

/-- Writes down the last state of a run that has ended with an error or without; the last flush may
have failed. -/
def conclude (machine : Machine) (error : Option RunError) : Machine :=
  let error := if error.isNone && machine.writer.failed then some .flush else error
  { machine with status := .halted error }.record
    (.checkpoint machine.tape.pointer machine.tape.cell machine.mode machine.steps
      machine.pending.length)

variable {limit : Nat} {machine : Machine} {move : Machine → Machine}

/-- A move that delivers nothing leaves the limit as far away as it was. -/
theorem Idle.within (idle : Idle move machine) :
    move (machine.within limit) = (move machine).within limit := by
  rw [Machine.within, idle.same, Machine.within, idle.sunk]

/-- Behind a move that delivers nothing there is as much room as before. -/
theorem Idle.roomy (idle : Idle move machine) (roomy : Roomy limit machine) :
    Roomy limit (move machine) :=
  ⟨idle.unlimited roomy.unlimited, by rw [idle.sunk]; exact roomy.fits⟩

/-- A move that delivers nothing is the same in front of both sinks. -/
theorem Idle.curbed (idle : Idle move machine) : Curbed limit move machine :=
  fun roomy => .inl ⟨idle.roomy roomy, idle.within⟩

/-- Once a sink has failed, it takes nothing more. -/
theorem Grows.of_failed {start after : Machine} (grows : Grows start after)
    (failed : start.writer.failed = true) :
    after.writer.failed = true ∧ after.told Event.sunk = start.told Event.sunk := by
  -- Of all that can happen only a flush would bring bytes to the sink.
  induction grows with
  | refl => exact ⟨failed, rfl⟩
  | record _ quiet ih => exact ⟨ih.1, by rw [told_record, quiet, List.append_nil, ih.2]⟩
  | @flush machine _ ih =>
    -- A sink that has failed is not tried again.
    have still : machine.writer.flush = (machine.writer, none) := by simp [Writer.flush, ih.1]
    have same : machine.flush = machine := by rw [Machine.flush, still, deliver]
    rw [same]
    exact ih
  | buffered _ byte ih => exact ih
  | other _ writer journal ih =>
    refine ⟨writer ▸ ih.1, ?_⟩
    rw [← ih.2]
    simp only [told, events, journal]

/-- A sink that has been cut off stays so, while the endless one takes more and more. -/
theorem CutOff.later {stopped whole : Machine} (cut : CutOff limit stopped whole)
    {after wholeAfter : Machine} (grows : Grows stopped after)
    (wholeGrows : Grows whole wholeAfter) : CutOff limit after wholeAfter := by
  obtain ⟨failed, same⟩ := grows.of_failed cut.failed
  have extends_ := wholeGrows.told_extends Event.sunk
  refine ⟨failed, ?_, Nat.lt_of_lt_of_le cut.more extends_.length_le⟩
  -- The first bytes are there already.
  obtain ⟨rest, whole⟩ := extends_
  rw [same, cut.sunk, ← whole, List.take_append_of_le_length (Nat.le_of_lt cut.more)]

namespace Curbed

variable {first second other : Machine → Machine}

/-- What comes first may deliver nothing. -/
theorem after (late : Curbed limit second (first machine)) (idle : Idle first machine) :
    Curbed limit (fun machine => second (first machine)) machine := by
  intro roomy
  have result := late (idle.roomy roomy)
  rwa [← idle.within] at result

/-- What comes first may also pass the limit; then what comes second changes nothing about it. -/
theorem andThen (early : Curbed limit first machine) (late : Curbed limit second (first machine))
    (grows : ∀ machine, Grows machine (second machine)) :
    Curbed limit (fun machine => second (first machine)) machine := by
  intro roomy
  rcases early roomy with ⟨still, same⟩ | cut
  · have result := late still
    rwa [← same] at result
  · exact .inr (cut.later (grows _) (grows _))

/-- A move that is another one at this place is curbed like that one. -/
theorem congr (curbed : Curbed limit move machine)
    (same : ∀ room, other (machine.onRoom room) = move (machine.onRoom room)) :
    Curbed limit other machine := by
  have here : other machine = move machine := same machine.writer.room
  have there : other (machine.within limit) = move (machine.within limit) := same _
  unfold Curbed
  rw [here, there]
  exact curbed

/-- As long as the limit has not been passed, the sink has not failed. -/
theorem unbroken (curbed : Curbed limit move machine) (error : Option RunError) :
    Curbed limit (fun machine => if machine.writer.failed then machine.finish error
      else move machine) machine := by
  intro roomy
  have sound : machine.writer.failed = false := roomy.unlimited.sound
  have limited : (machine.within limit).writer.failed = false := sound
  simp only [sound, limited, Bool.false_eq_true, if_false]
  -- So both machines take the branch of a sound sink.
  exact curbed roomy

end Curbed

/-- A flush brings the buffer to the sink, or as much of it as there is room for. -/
theorem curbed_flush (limit : Nat) (machine : Machine) : Curbed limit flush machine := by
  intro roomy
  obtain ⟨unlimited, fits⟩ := roomy
  -- An empty buffer is not delivered, whatever room there is.
  by_cases empty : machine.writer.buffer.isEmpty = true
  · have still (room : Option Nat) : (machine.onRoom room).flush = machine.onRoom room := by
      have nothing : (machine.onRoom room).writer.flush = ((machine.onRoom room).writer, none) := by
        simp [Writer.flush, onRoom, empty]
      rw [flush, nothing, deliver]
    have same : machine.flush = machine := still machine.writer.room
    exact .inl ⟨by rw [same]; exact ⟨unlimited, fits⟩, by rw [same]; exact still _⟩
  · -- The endless sink takes the whole buffer.
    have whole : machine.flush.told Event.sunk =
        machine.told Event.sunk ++ machine.writer.buffer.toList := told_sunk_flush unlimited
    have length : (machine.flush.told Event.sunk).length =
        (machine.told Event.sunk).length + machine.writer.buffer.size := by
      simp [whole]
    have busy : ((machine.within limit).writer.failed ||
        (machine.within limit).writer.buffer.isEmpty) = false := by
      simp [within, onRoom, unlimited.sound, empty]
    by_cases enough : machine.writer.buffer.size ≤ limit - (machine.told Event.sunk).length
    · -- There is room for the whole buffer, and the room shrinks by it.
      left
      refine ⟨⟨unlimited.flush, by omega⟩, ?_⟩
      have taken : (machine.within limit).writer.flush =
          ({ machine.writer with
              buffer := #[]
              room := some (limit - (machine.flush.told Event.sunk).length) },
            some (.accepted machine.writer.buffer.toList)) := by
        unfold Writer.flush
        simp only [busy, Bool.false_eq_true, if_false]
        simp only [within, onRoom, enough, if_true, length, Nat.sub_sub]
      rw [flush, taken, within, flush, unlimited.flush_eq]
      simp only [deliver, onRoom, empty, Bool.false_eq_true, if_false]
      rfl
    · right
      -- There is not, so the sink takes as much of the buffer as it can and fails.
      have part : (machine.within limit).writer.flush =
          ({ buffer := machine.writer.buffer.extract (limit - (machine.told Event.sunk).length)
             room := some 0
             failed := true },
            some (.refused
              (machine.writer.buffer.toList.take (limit - (machine.told Event.sunk).length)))) := by
        unfold Writer.flush
        simp only [busy, Bool.false_eq_true, if_false]
        simp only [within, onRoom, enough, if_false]
      refine ⟨?_, ?_, by omega⟩
      · rw [flush, part]
        rfl
      · -- What was there fits, and the rest of the room goes to the buffer.
        have before : (machine.within limit).told Event.sunk = machine.told Event.sunk := rfl
        rw [flush, told_deliver, part, whole, List.take_append, List.take_of_length_le fits, before]
        simp [Event.sunk, Delivery.bytes]

/-- A byte is buffered in front of both sinks, or the flush before it passes the limit. -/
theorem curbed_put (limit : Nat) (machine : Machine) (byte : UInt8) :
    Curbed limit (put · byte) machine := by
  have stored (machine : Machine) : Idle (buffered · byte) machine :=
    ⟨rfl, fun unlimited => ⟨unlimited.endless, unlimited.sound⟩, fun _ => rfl⟩
  by_cases space : machine.writer.buffer.size < bufferCapacity
  · intro roomy
    -- There is space in the buffer, so the sink is not asked.
    refine ((stored machine).curbed.congr fun room => ?_ : Curbed limit (put · byte) machine) roomy
    have sound : (machine.onRoom room).writer.failed = false := roomy.unlimited.sound
    have still : (machine.onRoom room).writer.buffer.size < bufferCapacity := space
    rw [put_eq, sound, if_pos still]
    rfl
  · intro roomy
    -- The buffer is flushed first, and the byte is lost if that fails.
    have full : Curbed limit (fun machine =>
        if machine.flush.writer.failed then machine.flush
        else machine.flush.buffered byte) machine := by
      intro roomy
      have sound : machine.flush.writer.failed = false := roomy.unlimited.flush.sound
      simp only [sound, Bool.false_eq_true, if_false]
      rcases curbed_flush limit machine roomy with ⟨still, same⟩ | cut
      · have limited : (machine.flush.within limit).writer.failed = false := sound
        simp only [same, limited, Bool.false_eq_true, if_false]
        exact (stored machine.flush).curbed still
      · simp only [cut.failed, if_true]
        exact .inr (cut.later .refl (Grows.refl.buffered byte))
    refine (full.congr fun room => ?_ : Curbed limit (put · byte) machine) roomy
    have sound : (machine.onRoom room).writer.failed = false := roomy.unlimited.sound
    have still : ¬ (machine.onRoom room).writer.buffer.size < bufferCapacity := space
    rw [put_eq, sound, if_neg still]
    rfl

/-- Bytes are put out alike until the limit is passed. -/
theorem curbed_print (limit : Nat) (bytes : Bytes) :
    ∀ machine : Machine, Curbed limit (print · bytes) machine := by
  -- Byte after byte. Once the limit has been passed, the others are lost to the sink.
  induction bytes with
  | nil => exact fun _ => Idle.curbed ⟨rfl, id, fun _ => rfl⟩
  | cons byte rest ih =>
    exact fun machine => (curbed_put limit machine byte).andThen (ih _) fun _ =>
      Grows.refl.print rest

/-- A line is put out alike until the limit is passed. -/
theorem curbed_printLine (limit : Nat) (machine : Machine) (bytes : Bytes) :
    Curbed limit (printLine · bytes) machine :=
  (curbed_print limit bytes machine).andThen (curbed_put limit _ newline) fun _ =>
    Grows.refl.put newline

/-- Lines are put out alike until the limit is passed. -/
theorem curbed_printLines (limit : Nat) (lines : List Bytes) :
    ∀ machine : Machine, Curbed limit (printLines · lines) machine := by
  induction lines with
  | nil => exact fun _ => Idle.curbed ⟨rfl, id, fun _ => rfl⟩
  | cons line rest ih =>
    exact fun machine => (curbed_printLine limit machine line).andThen (ih _) fun _ =>
      Grows.refl.printLines rest

/-- Writing down a quiet event delivers nothing. -/
theorem idle_record (machine : Machine) {event : Event} (quiet : event.isQuiet = true) :
    Idle (record · event) machine where
  sunk := by rw [told_record, Event.sunk_of_isQuiet quiet, List.append_nil]
  unlimited := id
  same _ := rfl

/-- A change of the mode delivers nothing. -/
theorem idle_setMode (machine : Machine) (mode : Mode) : Idle (setMode · mode) machine where
  sunk := by
    unfold setMode
    split
    · rfl
    · rw [told_record]
      exact List.append_nil _
  unlimited := (machine.untouched_setMode mode).unlimited
  same room := by
    unfold setMode
    rw [apply_ite (onRoom · room)]
    rfl

/-- The start of an instruction delivers nothing. -/
theorem idle_begin (machine : Machine) (pos : Nat) (opcode : Opcode) :
    Idle (begin · pos opcode) machine where
  sunk := machine.told_begin pos opcode fun _ _ _ _ => rfl
  unlimited := id
  same _ := rfl

/-- Writing down what the line source answers delivers nothing. -/
theorem idle_recordEntry (machine : Machine) (entry : Entry) :
    Idle (recordEntry · entry) machine := by
  cases entry <;> exact ⟨by simp [recordEntry, Event.sunk], id, fun _ => rfl⟩

/-- A run ends alike, unless its last flush passes the limit. -/
theorem curbed_finish (limit : Nat) (machine : Machine) (error : Option RunError) :
    Curbed limit (finish · error) machine := by
  -- Behind the flush the status changes and the last state is written down.
  have closing : Idle (conclude · error) machine.flush :=
    ⟨by rw [conclude, told_record]; exact List.append_nil _, id, fun _ => rfl⟩
  refine (curbed_flush limit machine).andThen closing.curbed fun machine => ?_
  have changed (status : Status) : Grows machine { machine with status := status } :=
    Grows.refl.other rfl rfl
  exact (changed _).record rfl

/-- The console shows the same prompt, unless that passes the limit. -/
theorem curbed_stop (limit : Nat) (machine : Machine) (pos : Nat) (opcode : Opcode) :
    Curbed limit (stop · pos opcode) machine := by
  -- The prompt is the same in front of every sink.
  obtain ⟨prompt, shown⟩ : ∃ prompt, ∀ room, (machine.onRoom room).stop pos opcode =
      if ((machine.onRoom room).print prompt).flush.writer.failed then
        ((machine.onRoom room).print prompt).flush.finish (some .flush)
      else { ((machine.onRoom room).print prompt).flush with status := .stopped } := by
    refine ⟨Console.prompt pos machine.tape.pointer opcode, fun room => ?_⟩
    have tape : (machine.onRoom room).tape = machine.tape := rfl
    simp only [stop, tape]
  have waiting (machine : Machine) :
      Idle (fun machine => { machine with status := .stopped }) machine :=
    ⟨rfl, id, fun _ => rfl⟩
  have printed := (curbed_print limit prompt machine).andThen (curbed_flush limit _) fun _ =>
    Grows.refl.flush
  refine (printed.andThen ((waiting _).curbed.unbroken (some .flush)) fun machine => ?_).congr shown
  split
  · exact Grows.refl.finish _
  · exact Grows.refl.other rfl rfl

/-- A line is asked for alike, unless the flush before that passes the limit. -/
theorem curbed_ask (limit : Nat) (machine : Machine) : Curbed limit ask machine := by
  -- The user is asked whatever room the sink has.
  have waiting (machine : Machine) : Idle await machine := by
    have prompting (room : Option Nat) : (machine.onRoom room).prompting = machine.prompting := rfl
    unfold await
    refine ⟨?_, fun unlimited => ?_, fun room => ?_⟩
    · split
      -- The prompt for input is told of, and brings nothing to the sink.
      · exact (idle_record machine rfl).sunk
      · rfl
    · split <;> exact unlimited
    · rw [prompting]
      split <;> rfl
  refine (curbed_flush limit machine).andThen ((waiting _).curbed.unbroken (some .flush))
    fun machine => ?_
  split
  · exact Grows.refl.finish _
  · unfold await
    split
    · have noted : Grows machine (machine.record .prompted) := Grows.refl.record rfl
      exact noted.other rfl rfl
    · exact Grows.refl.other rfl rfl

/-- The current cell is put out alike, unless that passes the limit. -/
theorem curbed_emit (limit : Nat) (machine : Machine) (rest : Code) :
    Curbed limit (emit · rest) machine := by
  have second (machine : Machine) : Curbed limit (fun machine =>
      if !machine.writer.failed && machine.mode = .debugging then machine.put newline
      else machine) machine := by
    intro roomy
    have sound : machine.writer.failed = false := roomy.unlimited.sound
    have limited : (machine.within limit).writer.failed = false := sound
    have mode : (machine.within limit).mode = machine.mode := rfl
    simp only [sound, limited, mode, Bool.not_false, Bool.true_and]
    split
    · exact curbed_put limit machine newline roomy
    · exact .inl ⟨roomy, rfl⟩
  have noted (machine : Machine) (byte : UInt8) :
      Idle (fun machine => (machine.record (.output byte)).proceed rest) machine :=
    ⟨(idle_record machine rfl).sunk, id, fun _ => rfl⟩
  -- The byte, perhaps the line end of the debugger, and then the run goes on or has failed.
  refine ((curbed_put limit machine machine.tape.cell).andThen (second _) fun machine => ?_).andThen
    ((noted _ machine.tape.cell).curbed.unbroken (some .write)) fun machine => ?_
  · split
    · exact Grows.refl.put newline
    · exact .refl
  · split
    · exact Grows.refl.finish _
    · have output (byte : UInt8) : Grows machine (machine.record (.output byte)) :=
        Grows.refl.record rfl
      exact (output _).other rfl rfl

/-- An operation does the same in front of both sinks, or passes the limit. -/
theorem curbed_operate (limit : Nat) (machine : Machine) (pos : Nat) (action : Op) (rest : Code) :
    Curbed limit (operate · pos action rest) machine := by
  -- Only output and a request for input get to the sink; the rest works on tape and pending input.
  have moving (moved : Except PointerFault Tape) :
      Curbed limit (move · pos action moved rest) machine := by
    cases moved with
    | ok tape => exact Idle.curbed ⟨rfl, id, fun _ => rfl⟩
    | error fault => exact curbed_finish limit machine _
  cases action with
  | moveRight => exact moving machine.tape.moveRight
  | moveLeft => exact moving machine.tape.moveLeft
  | increment => exact Idle.curbed ⟨rfl, id, fun _ => rfl⟩
  | decrement => exact Idle.curbed ⟨rfl, id, fun _ => rfl⟩
  | output => exact curbed_emit limit machine rest
  | input =>
    have pending (room : Option Nat) : (machine.onRoom room).pending = machine.pending := rfl
    cases bytes : machine.pending with
    | nil =>
      refine Curbed.congr (curbed_ask limit machine) fun room => ?_
      simp only [operate, takeInput, pending, bytes]
    | cons byte more =>
      have stored : Idle (fun machine => { machine with pending := more }.store byte rest)
          -- A pending byte is stored without a question, and so without a flush.
          machine :=
        ⟨(idle_record { machine with tape := machine.tape.write byte } rfl).sunk, id, fun _ => rfl⟩
      refine Curbed.congr stored.curbed fun room => ?_
      simp only [operate, takeInput, pending, bytes]
  | breakpoint =>
    have proceeding (machine : Machine) : Idle (proceed · rest) machine :=
      ⟨rfl, id, fun _ => rfl⟩
    exact ((proceeding _).curbed.after (idle_setMode _ .debugging)).after
      (idle_record machine (rfl : (Event.breakpoint pos).isQuiet = true))

/-- The next instruction does the same in front of both sinks, or passes the limit. -/
theorem curbed_execute (limit : Nat) (machine : Machine) : Curbed limit execute machine := by
  -- Which instruction comes next is the same in front of every sink.
  cases code : machine.code with
  | done =>
    have still : Idle id machine := ⟨rfl, id, fun _ => rfl⟩
    exact still.curbed.congr fun _ => by simp only [execute, onRoom, code, id]
  | op pos action rest =>
    refine Curbed.congr ((curbed_operate limit _ pos action rest).after
      (idle_begin machine pos (.basic action))) fun _ => ?_
    simp only [execute, onRoom, code]
  | loop pos body rest =>
    -- Entering a loop delivers nothing.
    have entered : Idle (fun machine =>
        { machine.begin pos .loop with
          code := .done, loops := ⟨body, rest⟩ :: machine.loops, status := .ready }) machine :=
      ⟨(idle_begin machine pos .loop).sunk, id, fun _ => rfl⟩
    exact entered.curbed.congr fun _ => by simp only [execute, onRoom, code]

/-- An input instruction takes the same from an entry in front of both sinks. -/
theorem curbed_receiveInput (limit : Nat) (machine : Machine) (rest : Code) (entry : Entry) :
    Curbed limit (receiveInput · rest entry) machine := by
  have stored (machine : Machine) (byte : UInt8) : Idle (store · byte rest) machine :=
    ⟨(idle_record { machine with tape := machine.tape.write byte } rfl).sunk, id, fun _ => rfl⟩
  cases entry with
  | line text =>
    have mode (room : Option Nat) : (machine.onRoom room).inputMode = machine.inputMode := rfl
    simp only [receiveInput]
    cases taken : machine.inputMode with
    | stream =>
      cases text with
      | nil => exact (stored machine newline).curbed.congr fun _ => by simp only [mode, taken]
      | cons byte more =>
        have kept : Idle (fun machine => { machine with pending := more ++ [newline] }) machine :=
          ⟨rfl, id, fun _ => rfl⟩
        exact ((stored _ byte).curbed.after kept).congr fun _ => by simp only [mode, taken]
    | line =>
      cases text with
      | nil => exact (curbed_ask limit machine).congr fun _ => by simp only [mode, taken]
      | cons byte more =>
        exact (stored machine byte).curbed.congr fun _ => by simp only [mode, taken]
  | ended report =>
    have noted : Idle (fun machine =>
        -- At the end of the input nothing is delivered either.
        (machine.record (.inputExhausted machine.tape.pointer)).proceed rest) machine :=
      ⟨(idle_record machine rfl).sunk, id, fun _ => rfl⟩
    exact noted.curbed
  | failed reason => exact curbed_finish limit machine _
  | cancelled =>
    have cancelled : Idle cancel machine := ⟨rfl, id, fun _ => rfl⟩
    exact (curbed_finish limit _ _).after cancelled

/-- A single line is printed as a list of one line is. -/
theorem printLine_eq (machine : Machine) (text : Bytes) :
    machine.printLine text = machine.printLines [text] := rfl

/-- What the console replies does not depend on the sink. -/
theorem answer_onRoom (machine : Machine) (pos : Nat) (opcode : Opcode) (request : Command) :
    ∃ lines, ∀ room, (machine.onRoom room).answer pos opcode request =
      (machine.onRoom room).printLines lines := by
  have listing (room : Option Nat) : (machine.onRoom room).listing = machine.listing := rfl
  have tape (room : Option Nat) : (machine.onRoom room).tape = machine.tape := rfl
  have mode (room : Option Nat) : (machine.onRoom room).mode = machine.mode := rfl
  have steps (room : Option Nat) : (machine.onRoom room).steps = machine.steps := rfl
  have nothing (machine : Machine) : machine = machine.printLines [] := rfl
  cases request with
  | code => exact ⟨_, fun _ => by rw [answer, listing]⟩
  | mem => exact ⟨_, fun _ => by rw [answer, tape]⟩
  | info => exact ⟨_, fun _ => by rw [answer, tape, mode, steps, printLine_eq]⟩
  | help => exact ⟨_, fun _ => by rw [answer, printLine_eq]⟩
  | next => exact ⟨_, fun _ => nothing _⟩
  | exit => exact ⟨_, fun _ => nothing _⟩

/-- A command of the console does the same in front of both sinks, or passes the limit. -/
theorem curbed_command (limit : Nat) (machine : Machine) (pos : Nat) (opcode : Opcode)
    (line : Bytes) : Curbed limit (command · pos opcode line) machine := by
  have stopping (machine : Machine) : Curbed limit (stop · pos opcode) machine :=
    curbed_stop limit machine pos opcode
  have stopped (machine : Machine) : Grows machine (machine.stop pos opcode) :=
    (Outcome.stop .refl pos opcode).grows
  -- Where the machine stops again, it prints some lines first.
  have replies (lines : List Bytes) (shown : ∀ room, (machine.onRoom room).command pos opcode line =
      ((machine.onRoom room).printLines lines).stop pos opcode) :
      Curbed limit (command · pos opcode line) machine :=
    ((curbed_printLines limit lines machine).andThen (stopping _) stopped).congr shown
  have answers (request : Command) (shown : ∀ room, (machine.onRoom room).command pos opcode line =
      ((machine.onRoom room).answer pos opcode request).stop pos opcode) :
      Curbed limit (command · pos opcode line) machine := by
    obtain ⟨lines, printed⟩ := machine.answer_onRoom pos opcode request
    exact replies lines fun room => by rw [shown, printed]
  by_cases blank : trimBlank line = []
  -- An empty line shows the banner again, and an unknown one is complained about first.
  · exact (stopping machine).congr fun _ => by simp only [command, blank, if_true]
  · cases parsed : Command.parse? line with
    | none =>
      exact replies [Command.complaint line] fun _ => by
        simp only [command, blank, parsed, if_false, printLine_eq]
    | some request =>
      cases request with
      | next =>
        -- Two commands make the machine go on, and the others print and stop again.
        exact (curbed_execute limit machine).congr fun _ => by
          simp only [command, blank, parsed, if_false]
      | exit =>
        exact ((curbed_execute limit _).after (idle_setMode machine .running)).congr fun _ => by
          simp only [command, blank, parsed, if_false]
      | code => exact answers .code fun _ => by simp only [command, blank, parsed, if_false]
      | mem => exact answers .mem fun _ => by simp only [command, blank, parsed, if_false]
      | info => exact answers .info fun _ => by simp only [command, blank, parsed, if_false]
      | help => exact answers .help fun _ => by simp only [command, blank, parsed, if_false]

/-- The console hears an entry alike in front of both sinks, or the limit is passed. -/
theorem curbed_receiveCommand (limit : Nat) (machine : Machine) (pos : Nat) (opcode : Opcode)
    (entry : Entry) : Curbed limit (receiveCommand · pos opcode entry) machine := by
  cases entry with
  | line text => exact curbed_command limit machine pos opcode text
  | ended report =>
    exact ((curbed_execute limit _).after (idle_setMode _ .running)).after
      (idle_record machine (rfl : (Event.consoleClosed pos).isQuiet = true))
  | failed reason => exact curbed_finish limit machine _
  | cancelled =>
    have cancelled : Idle cancel machine := ⟨rfl, id, fun _ => rfl⟩
    exact (curbed_finish limit _ _).after cancelled

/-- An entry does the same in front of both sinks, or the limit is passed. -/
theorem curbed_receive (limit : Nat) (machine : Machine) (entry : Entry) :
    Curbed limit (receive · entry) machine := by
  -- Who hears the entry depends on the status and the code, which do not depend on the sink.
  have noted := idle_recordEntry machine entry
  have console (pos : Nat) (opcode : Opcode) :=
    (curbed_receiveCommand limit (machine.recordEntry entry) pos opcode entry).after noted
  have input (rest : Code) :=
    (curbed_receiveInput limit (machine.recordEntry entry) rest entry).after noted
  cases status : machine.status with
  | ready => exact noted.curbed.congr fun _ => by simp only [receive, onRoom, status]
  | halted error => exact noted.curbed.congr fun _ => by simp only [receive, onRoom, status]
  | stopped =>
    cases code : machine.code with
    | done => exact noted.curbed.congr fun _ => by simp only [receive, onRoom, status, code]
    | op pos action rest =>
      exact (console pos (.basic action)).congr fun _ => by
        simp only [receive, onRoom, status, code]
    | loop pos body rest =>
      exact (console pos .loop).congr fun _ => by simp only [receive, onRoom, status, code]
  | asking =>
    cases code : machine.code with
    | done => exact noted.curbed.congr fun _ => by simp only [receive, onRoom, status, code]
    | op pos action rest =>
      exact (input rest).congr fun _ => by simp only [receive, onRoom, status, code]
    | loop pos body rest =>
      exact noted.curbed.congr fun _ => by simp only [receive, onRoom, status, code]

/-- A loop is tested alike, unless the end of the run passes the limit. -/
theorem curbed_test (limit : Nat) (machine : Machine) (innermost : ActiveLoop)
    (outer : List ActiveLoop) : Curbed limit (test · innermost outer) machine := by
  have cell (room : Option Nat) : (machine.onRoom room).tape.cell = machine.tape.cell := rfl
  by_cases zero : machine.tape.cell = 0
  -- The cell under the pointer does not depend on the sink.
  · have left : Idle (fun machine : Machine =>
        { machine with code := innermost.rest, loops := outer }) machine :=
      ⟨rfl, id, fun _ => rfl⟩
    exact left.curbed.congr fun _ => by simp only [test, cell, zero, if_true]
  · have checked : Idle (fun machine : Machine =>
        { machine with cancellation := machine.cancellation.check }) machine :=
      ⟨rfl, id, fun _ => rfl⟩
    have begun (machine : Machine) : Idle (fun machine : Machine =>
        { machine with code := innermost.body }) machine := ⟨rfl, id, fun _ => rfl⟩
    have seen (room : Option Nat) : (machine.onRoom room).cancellation = machine.cancellation := rfl
    -- Whether the run has been cancelled does not depend on the sink either.
    cases cancelled : machine.cancellation.check.cancelled with
    | true =>
      exact ((curbed_finish limit _ (some .cancelled)).after checked).congr fun _ => by
        simp only [test, cell, zero, seen, cancelled, if_true, if_false]
    | false =>
      exact ((begun _).curbed.after checked).congr fun _ => by
        simp only [test, cell, zero, seen, cancelled, Bool.false_eq_true, if_false]

/-- A move does the same in front of both sinks, or passes the limit. -/
theorem curbed_advance (limit : Nat) (machine : Machine) : Curbed limit advance machine := by
  -- At the end of a sequence a loop is tested or the run ends; else the mode decides.
  cases code : machine.code with
  | done =>
    cases loops : machine.loops with
    | nil =>
      exact (curbed_finish limit machine none).congr fun _ => by
        simp only [advance, onRoom, code, loops]
    | cons innermost outer =>
      exact (curbed_test limit machine innermost outer).congr fun _ => by
        simp only [advance, onRoom, code, loops]
  | op pos action rest =>
    by_cases debugging : machine.mode = .debugging
    · exact (curbed_stop limit machine pos (.basic action)).congr fun _ => by
        simp only [advance, onRoom, code, debugging, if_true]
    · exact (curbed_execute limit machine).congr fun _ => by
        simp only [advance, onRoom, code, debugging, if_false]
  | loop pos body rest =>
    by_cases debugging : machine.mode = .debugging
    · exact (curbed_stop limit machine pos .loop).congr fun _ => by
        simp only [advance, onRoom, code, debugging, if_true]
    · exact (curbed_execute limit machine).congr fun _ => by
        simp only [advance, onRoom, code, debugging, if_false]

end Machine

namespace Session

open Machine (CutOff Roomy)

variable {session : Session} {limit : Nat}

/-- The same session in front of a sink with a limit. -/
def within (session : Session) (limit : Nat) : Session :=
  { session with machine := session.machine.within limit }

/-- One move in front of both sinks. -/
theorem step_within (roomy : session.machine.Roomy limit) :
    (session.step.machine.Roomy limit ∧
        (session.within limit).step = session.step.within limit) ∨
      CutOff limit (session.within limit).step.machine session.step.machine := by
  have status : (session.within limit).machine.status = session.machine.status := rfl
  have handed : (session.handOver.machine.Roomy limit ∧
      (session.within limit).handOver = session.handOver.within limit) ∨
        CutOff limit (session.within limit).handOver.machine session.handOver.machine := by
    simp only [handOver_eq]
    refine (Machine.curbed_receive limit session.machine _ roomy).imp_left ?_
    rintro ⟨still, same⟩
    exact ⟨still, congrArg (Session.mk · session.script.tail) same⟩
  cases now : session.machine.status with
  -- Who makes the move depends on the status, which is the same.
  | ready =>
    simp only [step, status, now]
    refine (Machine.curbed_advance limit session.machine roomy).imp_left ?_
    rintro ⟨still, same⟩
    exact ⟨still, congrArg (Session.mk · session.script) same⟩
  | stopped => simpa only [step, status, now] using handed
  | asking => simpa only [step, status, now] using handed
  | halted error =>
    simp only [step, status, now]
    exact .inl ⟨roomy, trivial⟩

/-- The whole run in front of both sinks: it is the same one, or the limit has been passed and the
sink has failed. -/
theorem iterate_within (roomy : session.machine.Roomy limit) (moves : Nat) :
    ((step^[moves] session).machine.Roomy limit ∧
        step^[moves] (session.within limit) = (step^[moves] session).within limit) ∨
      CutOff limit (step^[moves] (session.within limit)).machine
        (step^[moves] session).machine := by
  -- The runs agree up to the move that passes the limit, and from there on the sink stays cut off.
  induction moves with
  | zero => exact .inl ⟨roomy, rfl⟩
  | succ moves ih =>
    simp only [Function.iterate_succ_apply']
    rcases ih with ⟨still, same⟩ | cut
    · rw [same]
      exact step_within still
    · exact .inr (cut.later (grows_step _) (grows_step _))

/-- A machine that has flushed its output where it has to, that has not asked for a line since its
sink has failed, and whose run has ended if it has. -/
structure Upright (session : Session) : Prop where
  settled : session.machine.Settled
  orderly : session.machine.Orderly
  broken : session.machine.writer.failed = true →
    ∃ error, session.machine.status = .halted (some error)

/-- It stays so with every move. -/
theorem Upright.step (upright : session.Upright) : session.step.Upright := by
  have turn := turn_step upright.settled
  refine ⟨turn.settled, turn.orderly upright.orderly, fun failed => ?_⟩
  rcases turn.broken failed with before | ended
  · -- The run was over already.
    obtain ⟨error, halted⟩ := upright.broken before
    exact ⟨error, by simp only [Session.step, halted]⟩
  · exact ended

/-- It stays so through the whole run. -/
theorem Upright.iterate (upright : session.Upright) (moves : Nat) :
    (Session.step^[moves] session).Upright :=
  Function.Iterate.rec Upright upright (fun _ => Upright.step) moves

end Session

/-- A fresh machine has put out nothing yet. -/
theorem Blueprint.upright (blueprint : Blueprint) (script : List Entry) :
    Session.Upright ⟨blueprint.machine, script⟩ where
  settled := trivial
  orderly := ⟨fun _ _ member => (nomatch member), fun since part before journal => by
    cases since <;> cases journal⟩
  broken failed := nomatch failed

/-- No output is lost or invented when the sink fails. The sink of a run that has ended has taken
just the first bytes of what an endless sink takes, as many as it can take; the run ends well only
if the endless sink never takes more; a failure of the sink ends the run with an error; and behind
the delivery that fails no answer of the line source is written down any more. -/
theorem limited_sink_cuts_output (blueprint : Blueprint) (limit : Nat) (script : List Entry)
    (moves : Nat) :
    let whole moves := Session.run moves ⟨{ blueprint with room := none }.machine, script⟩
    let cut := Session.run moves ⟨{ blueprint with room := some limit }.machine, script⟩
    (cut.machine.isHalted = true → ∀ later, moves ≤ later →
      cut.machine.told Event.sunk = ((whole later).machine.told Event.sunk).take limit) ∧
    (cut.machine.status = .halted none →
      ∀ later, ((whole later).machine.told Event.sunk).length ≤ limit) ∧
    (cut.machine.writer.failed = true → ∃ error, cut.machine.status = .halted (some error)) ∧
    (∀ early part late, cut.machine.events = early ++ .delivered (.refused part) :: late →
      ∀ event ∈ late, event.handed = []) := by
  intro whole cut
  let session : Session := ⟨{ blueprint with room := none }.machine, script⟩
  have roomy : session.machine.Roomy limit := ⟨⟨rfl, rfl⟩, Nat.zero_le _⟩
  have whole_eq (moves : Nat) : whole moves = Session.step^[moves] session :=
    Session.run_eq_iterate moves session
  have cut_eq : cut = Session.step^[moves] (session.within limit) :=
    Session.run_eq_iterate moves (session.within limit)
  have upright : cut.Upright := by
    rw [cut_eq]
    exact ({ blueprint with room := some limit }.upright script).iterate moves
  have alike := Session.iterate_within roomy moves
  rw [← cut_eq, ← whole_eq] at alike
  -- Where the sink has not failed, the endless run is over too and takes nothing more.
  have still (halted : cut.machine.isHalted = true) (same : cut = (whole moves).within limit)
      (later : Nat) (le : moves ≤ later) : whole later = whole moves := by
    have ended : (whole moves).machine.isHalted = true := by
      rw [same] at halted
      exact halted
    obtain ⟨rest, rfl⟩ := Nat.exists_eq_add_of_le' le
    rw [whole_eq] at ended
    rw [whole_eq, whole_eq, Function.iterate_add_apply,
      Function.iterate_fixed (Session.step_of_halted ended)]
  refine ⟨fun halted later le => ?_, fun ended later => ?_, upright.broken, ?_⟩
  -- The sink has taken everything, or it has been cut off at the limit.
  · rcases alike with ⟨fits, same⟩ | failed
    · rw [still halted same later le, List.take_of_length_le fits.fits, same]
      rfl
    · have grown := session.grows_of_le le
      rw [← whole_eq, ← whole_eq] at grown
      exact (failed.later .refl grown).sunk
  · have halted : cut.machine.isHalted = true := by simp [Machine.isHalted, ended]
    -- A run that has ended well is the run in front of the endless sink.
    rcases alike with ⟨fits, same⟩ | failed
    · rcases Nat.le_total moves later with le | le
      · rw [still halted same later le]
        exact fits.fits
      · have grown := (session.grows_of_le le).told_extends Event.sunk
        rw [← whole_eq, ← whole_eq] at grown
        exact Nat.le_trans grown.length_le fits.fits
    · -- A run whose sink has failed does not end well.
      obtain ⟨error, broken⟩ := upright.broken failed.failed
      rw [ended] at broken
      cases broken
  · intro early part late happened event member
    -- What follows the refusal in the events lies before it in the journal.
    have journal : cut.machine.journal =
        late.reverse ++ .delivered (.refused part) :: early.reverse := by
      have reversed := congrArg List.reverse happened
      simpa [Machine.events] using reversed
    exact upright.orderly.silent _ part _ journal event (List.mem_reverse.mpr member)

/-- A sink with room for one byte fails at the input instruction, before a line is asked for: it has
taken the first of the two bytes. -/
theorem limited_sink_cuts_output_input :
    let program : Program :=
      ⟨.op 0 .output (.op 1 .increment (.op 2 .output (.op 3 .input .done))), 4, 0⟩
    let blueprint : Blueprint := { Blueprint.ofProgram program with tapeLength := 1 }
    let whole := Session.run 6 ⟨{ blueprint with room := none }.machine, []⟩
    let cut := Session.run 4 ⟨{ blueprint with room := some 1 }.machine, []⟩
    whole.machine.told Event.sunk = [0, 1] ∧ whole.machine.told Event.handed ≠ [] ∧
      cut.machine.told Event.sunk = (whole.machine.told Event.sunk).take 1 ∧
      cut.machine.status = .halted (some .flush) ∧ cut.machine.told Event.handed = [] := by
  intro program blueprint whole cut
  have halted : cut.machine.isHalted = true := by decide +kernel
  have cuts := limited_sink_cuts_output blueprint 1 [] 4
  exact ⟨by decide +kernel, by decide +kernel, cuts.1 halted 6 (by decide), by decide +kernel,
    by decide +kernel⟩

end TapeMachine
