import TapeMachine.Proofs.Machine.Output

/-! Output, prompts, mode changes and console commands leave the program and its data untouched. -/

namespace TapeMachine

/-- Whether an event is something that the program itself does. -/
def Event.isOwn : Event → Bool
  | exec .. | breakpoint _ | output _ | input _ => true
  | _ => false

namespace Machine

/-- Everything that the program works with is the same before and after. The mode, the output, the
status and events that are not the program's own may differ. -/
structure Untouched (before after : Machine) : Prop where
  program : after.program = before.program
  listing : after.listing = before.listing
  inputMode : after.inputMode = before.inputMode
  prompting : after.prompting = before.prompting
  code : after.code = before.code
  loops : after.loops = before.loops
  tape : after.tape = before.tape
  steps : after.steps = before.steps
  pending : after.pending = before.pending
  cancellation : after.cancellation = before.cancellation
  own : after.events.filter Event.isOwn = before.events.filter Event.isOwn
  unlimited : before.writer.Unlimited → after.writer.Unlimited

namespace Untouched

/-- Nothing happens to a machine by itself. -/
theorem refl (machine : Machine) : Untouched machine machine :=
  ⟨rfl, rfl, rfl, rfl, rfl, rfl, rfl, rfl, rfl, rfl, rfl, id⟩

/-- What two moves leave untouched, both together leave untouched. -/
theorem trans {first second third : Machine} (early : Untouched first second)
    (late : Untouched second third) : Untouched first third where
  program := late.program.trans early.program
  listing := late.listing.trans early.listing
  inputMode := late.inputMode.trans early.inputMode
  prompting := late.prompting.trans early.prompting
  code := late.code.trans early.code
  loops := late.loops.trans early.loops
  tape := late.tape.trans early.tape
  steps := late.steps.trans early.steps
  pending := late.pending.trans early.pending
  cancellation := late.cancellation.trans early.cancellation
  own := late.own.trans early.own
  unlimited := late.unlimited ∘ early.unlimited

/-- A view that tells only of the program's own events tells the same. -/
theorem told {α : Type} {before after : Machine} (untouched : Untouched before after)
    {view : Event → List α} (proper : ∀ event, event.isOwn = false → view event = []) :
    after.told view = before.told view := by
  rw [Machine.told, ← flatMap_filter_of_silent proper, untouched.own,
    flatMap_filter_of_silent proper, ← Machine.told]

end Untouched

/-- Writing down an event that is not the program's own. -/
theorem untouched_record (machine : Machine) {event : Event} (foreign : event.isOwn = false) :
    Untouched machine (machine.record event) :=
  ⟨rfl, rfl, rfl, rfl, rfl, rfl, rfl, rfl, rfl, rfl, by simp [record, events, foreign], id⟩

/-- Changing the status. -/
theorem untouched_status (machine : Machine) (status : Status) :
    Untouched machine { machine with status := status } :=
  ⟨rfl, rfl, rfl, rfl, rfl, rfl, rfl, rfl, rfl, rfl, rfl, id⟩

/-- Taking over a writer. -/
theorem untouched_deliver (machine : Machine) {written : Writer × Option Delivery}
    (unlimited : machine.writer.Unlimited → written.1.Unlimited) :
    Untouched machine (machine.deliver written) := by
  refine ⟨rfl, rfl, rfl, rfl, rfl, rfl, rfl, rfl, rfl, rfl, ?_, unlimited⟩
  rcases written with ⟨writer, _ | delivery⟩ <;> simp [deliver, events, Event.isOwn]

/-- Emptying the buffer. -/
theorem untouched_flush (machine : Machine) : Untouched machine machine.flush :=
  machine.untouched_deliver Writer.Unlimited.flush

/-- Adding a byte to the output. -/
theorem untouched_put (machine : Machine) (byte : UInt8) : Untouched machine (machine.put byte) :=
  machine.untouched_deliver fun unlimited => unlimited.put byte

/-- Adding bytes to the output. -/
theorem untouched_print (bytes : Bytes) :
    ∀ machine : Machine, Untouched machine (machine.print bytes) := by
  -- Byte after byte, and nothing happens in between.
  induction bytes with
  | nil => exact Untouched.refl
  | cons byte rest ih => exact fun machine => (machine.untouched_put byte).trans (ih _)

/-- Adding a line to the output. -/
theorem untouched_printLine (machine : Machine) (bytes : Bytes) :
    Untouched machine (machine.printLine bytes) :=
  (untouched_print bytes machine).trans (untouched_put _ newline)

/-- Adding lines to the output. -/
theorem untouched_printLines (lines : List Bytes) :
    ∀ machine : Machine, Untouched machine (machine.printLines lines) := by
  induction lines with
  | nil => exact Untouched.refl
  | cons line rest ih => exact fun machine => (machine.untouched_printLine line).trans (ih _)

/-- Switching to a mode. -/
theorem untouched_setMode (machine : Machine) (mode : Mode) :
    Untouched machine (machine.setMode mode) := by
  -- A change of the mode is written down, but it is not the program's own doing.
  unfold setMode
  split
  · exact .refl machine
  · exact ⟨rfl, rfl, rfl, rfl, rfl, rfl, rfl, rfl, rfl, rfl,
      by simp [record, events, Event.isOwn], id⟩

/-- Ending the run. -/
theorem untouched_finish (machine : Machine) (error : Option RunError) :
    Untouched machine (machine.finish error) :=
  machine.untouched_flush.trans ((untouched_status _ _).trans (untouched_record _ rfl))

/-- Stopping in the console. -/
theorem untouched_stop (machine : Machine) (pos : Nat) (opcode : Opcode) :
    Untouched machine (machine.stop pos opcode) := by
  -- The prompt is printed and flushed in any case.
  have prompted := (untouched_print (Console.prompt pos machine.tape.pointer opcode) machine).trans
    (untouched_flush _)
  unfold stop
  dsimp only
  split
  · exact prompted.trans (untouched_finish _ _)
  · exact prompted.trans (untouched_status _ _)

/-- Waits for a line of input; the user may be asked for it. -/
def await (machine : Machine) : Machine :=
  { (if machine.prompting then machine.record .prompted else machine) with status := .asking }

/-- A wait for program input leaves the place in the program alone. -/
theorem untouched_await (machine : Machine) : Untouched machine machine.await := by
  refine Untouched.trans ?_ (untouched_status _ _)
  split
  · exact untouched_record _ rfl
  · exact .refl _

/-- Asking for a line of input. -/
theorem untouched_ask (machine : Machine) : Untouched machine machine.ask := by
  -- The sink may fail when the buffer is flushed; only then is the user not asked.
  unfold ask
  dsimp only
  split
  · exact machine.untouched_flush.trans (untouched_finish _ _)
  · exact machine.untouched_flush.trans (untouched_await _)

/-- Writing down what the line source handed out. -/
theorem untouched_recordEntry (machine : Machine) (entry : Entry) :
    Untouched machine (machine.recordEntry entry) := by
  cases entry <;> exact untouched_record _ rfl

/-- Answering a command. -/
theorem untouched_answer (machine : Machine) (pos : Nat) (opcode : Opcode) (command : Command) :
    Untouched machine (machine.answer pos opcode command) := by
  cases command with
  | next => exact .refl machine
  | code => exact untouched_printLines _ _
  | mem => exact untouched_printLines _ _
  | exit => exact .refl machine
  | info => exact untouched_printLine _ _
  | help => exact untouched_printLine _ _

/-- The output instruction writes first, and then fails or goes on. -/
theorem emit_eq (machine : Machine) (rest : Code) :
    ∃ written, Untouched machine written ∧
      machine.emit rest = if written.writer.failed then written.finish (some .write)
        else (written.record (.output machine.tape.cell)).proceed rest := by
  -- The debugger adds a line end, unless the sink has failed before.
  refine ⟨_, ?_, rfl⟩
  split
  · exact (machine.untouched_put _).trans (untouched_put _ _)
  · exact machine.untouched_put _

/-- In front of an instruction a machine stops under the debugger, and else executes it. -/
theorem advance_of_next {machine : Machine} (next : machine.code ≠ .done) :
    ∃ pos opcode, machine.advance =
      if machine.mode = .debugging then machine.stop pos opcode else machine.execute := by
  cases code : machine.code with
  | done => exact absurd code next
  | op pos action rest => exact ⟨pos, .basic action, by simp only [advance, code]⟩
  | loop pos body rest => exact ⟨pos, .loop, by simp only [advance, code]⟩

/-- In front of an instruction a line goes to the console of a stopped machine. -/
theorem receive_of_stopped {machine : Machine} (stopped : machine.status = .stopped)
    (next : machine.code ≠ .done) (entry : Entry) :
    ∃ pos opcode, machine.receive entry =
      (machine.recordEntry entry).receiveCommand pos opcode entry := by
  cases code : machine.code with
  | done => exact absurd code next
  | op pos action rest => exact ⟨pos, .basic action, by simp only [receive, stopped, code]⟩
  | loop pos body rest => exact ⟨pos, .loop, by simp only [receive, stopped, code]⟩

/-- A line of console input leaves the machine stopped, or lets it execute the next instruction. -/
theorem command_cases (machine : Machine) (pos : Nat) (opcode : Opcode) (line : Bytes) :
    ∃ heard, Untouched machine heard ∧
      (machine.command pos opcode line = heard.stop pos opcode ∨
        machine.command pos opcode line = heard.execute) := by
  unfold command
  -- A blank line only repeats the prompt, and an unknown word is complained about.
  split
  · exact ⟨machine, .refl machine, .inl rfl⟩
  · cases Command.parse? line with
    | none => exact ⟨_, untouched_printLine _ _, .inl rfl⟩
    | some request =>
      cases request with
      | next => exact ⟨machine, .refl machine, .inr rfl⟩
      | exit => exact ⟨_, untouched_setMode _ _, .inr rfl⟩
      | code => exact ⟨_, untouched_answer _ _ _ .code, .inl rfl⟩
      | mem => exact ⟨_, untouched_answer _ _ _ .mem, .inl rfl⟩
      | info => exact ⟨_, untouched_answer _ _ _ .info, .inl rfl⟩
      | help => exact ⟨_, untouched_answer _ _ _ .help, .inl rfl⟩

/-- What the console gets leaves the machine stopped, lets it execute the next instruction, or ends
the run. -/
theorem receiveCommand_cases (machine : Machine) (pos : Nat) (opcode : Opcode) (entry : Entry) :
    (∃ heard, Untouched machine heard ∧
      (machine.receiveCommand pos opcode entry = heard.stop pos opcode ∨
        machine.receiveCommand pos opcode entry = heard.execute)) ∨
    (∃ reason, entry = .failed reason ∧ machine.receiveCommand pos opcode entry =
      machine.finish (some (.readCommand (.failed reason)))) ∨
    (entry = .cancelled ∧ machine.receiveCommand pos opcode entry =
      machine.cancel.finish (some (.readCommand .cancelled))) := by
  cases entry with
  | line text => exact .inl (machine.command_cases pos opcode text)
  | ended report =>
    refine .inl ⟨_, ?_, .inr rfl⟩
    exact (untouched_record machine rfl).trans (untouched_setMode _ _)
  | failed reason => exact .inr (.inl ⟨reason, rfl, rfl⟩)
  | cancelled => exact .inr (.inr ⟨rfl, rfl⟩)

/-- The end of a run is a final status. -/
theorem status_finish (machine : Machine) (error : Option RunError) :
    ∃ result, (machine.finish error).status = .halted result := ⟨_, rfl⟩

end Machine

end TapeMachine
