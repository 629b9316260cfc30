import TapeMachine.Proofs.Machine.Bare
import TapeMachine.Proofs.Machine.Passage

/-! Everything that one move can do, said once: the machine behind the move, its output left out. -/

namespace TapeMachine

/-- The bytes that a line has for the input instructions. -/
def InputMode.fed : InputMode → Bytes → Bytes
  | line, text => text.take 1
  | stream, text => text ++ [newline]

namespace Machine

section

variable (machine : Machine)

/-- The run is over. -/
def halt (error : Option RunError) : Machine :=
  { machine with status := .halted error }.record
    (.checkpoint machine.tape.pointer machine.tape.cell machine.mode machine.steps
      machine.pending.length)

/-- The console waits for a command. -/
def pause : Machine := { machine with status := .stopped }

/-- A loop has been entered, and its test comes next. -/
def entered (pos : Nat) (body rest : Code) : Machine :=
  { machine.begin pos .loop with
    code := .done, loops := ⟨body, rest⟩ :: machine.loops, status := .ready }

/-- The loop that passes its test is asked whether it may go on. -/
def checked : Machine := { machine with cancellation := machine.cancellation.check }

end

/-- What the next instruction can do. -/
inductive Executes (machine : Machine) : Machine → Prop
  /-- It is a loop. -/
  | enters {pos : Nat} {body rest : Code} (code : machine.code = .loop pos body rest) :
      Executes machine (machine.entered pos body rest)
  /-- It works on the tape alone. -/
  | acts {pos : Nat} {action : Op} {rest : Code} {tape : Tape}
      (code : machine.code = .op pos action rest) (onTape : action.isOnTape = true)
      (act : action.act machine.tape = .ok tape) :
      Executes machine (machine.acted pos action tape rest)
  /-- It moves the data pointer off the tape. -/
  | faults {pos : Nat} {action : Op} {rest : Code} {fault : PointerFault}
      (code : machine.code = .op pos action rest) (onTape : action.isOnTape = true)
      (act : action.act machine.tape = .error fault) :
      Executes machine ((machine.begin pos (.basic action)).halt
        (some (.pointer pos (.basic action) machine.tape.pointer fault)))
  /-- It puts out the current cell. -/
  | writes {pos : Nat} {rest : Code} (code : machine.code = .op pos .output rest) :
      Executes machine
        (((machine.begin pos (.basic .output)).record (.output machine.tape.cell)).proceed rest)
  /-- The sink does not take its output. -/
  | unwritten {pos : Nat} {rest : Code} (code : machine.code = .op pos .output rest) :
      Executes machine ((machine.begin pos (.basic .output)).halt (some .write))
  /-- It takes a byte that is pending. -/
  | takes {pos : Nat} {rest : Code} {byte : UInt8} {pending : Bytes}
      (code : machine.code = .op pos .input rest) (held : machine.pending = byte :: pending) :
      Executes machine
        ({ machine.begin pos (.basic .input) with pending := pending }.store byte rest)
  /-- It asks for a line. -/
  | asks {pos : Nat} {rest : Code} (code : machine.code = .op pos .input rest)
      (spent : machine.pending = []) : Executes machine (machine.begin pos (.basic .input)).await
  /-- It cannot ask for a line, since the output before cannot be flushed. -/
  | unasked {pos : Nat} {rest : Code} (code : machine.code = .op pos .input rest)
      (spent : machine.pending = []) :
      Executes machine ((machine.begin pos (.basic .input)).halt (some .flush))
  /-- It enters the debugger. -/
  | breaks {pos : Nat} {rest : Code} (code : machine.code = .op pos .breakpoint rest) :
      Executes machine ((((machine.begin pos (.basic .breakpoint)).record
        (.breakpoint pos)).setMode .debugging).proceed rest)

/-- What a machine can do that waits for nobody. -/
inductive Advances (machine : Machine) : Machine → Prop
  /-- The innermost loop is left. -/
  | leaves {innermost : ActiveLoop} {outer : List ActiveLoop} (code : machine.code = .done)
      (loops : machine.loops = innermost :: outer) (zero : machine.tape.cell = 0) :
      Advances machine { machine with code := innermost.rest, loops := outer }
  /-- The innermost loop begins a pass. -/
  | repeats {innermost : ActiveLoop} {outer : List ActiveLoop} (code : machine.code = .done)
      (loops : machine.loops = innermost :: outer) (nonzero : machine.tape.cell ≠ 0)
      (allowed : machine.checked.cancellation.cancelled = false) :
      Advances machine { machine.checked with code := innermost.body }
  /-- The innermost loop may not begin a pass any more. -/
  | cut (code : machine.code = .done) (around : machine.loops ≠ [])
      (nonzero : machine.tape.cell ≠ 0)
      (refused : machine.checked.cancellation.cancelled = true) :
      Advances machine (machine.checked.halt (some .cancelled))
  /-- The program has come to its end, and perhaps its last output cannot be flushed. -/
  | ends {error : Option RunError} (code : machine.code = .done) (outside : machine.loops = [])
      (last : error = none ∨ error = some .flush) : Advances machine (machine.halt error)
  /-- The console stops in front of the next instruction. -/
  | stops (code : machine.code ≠ .done) (debugging : machine.mode = .debugging) :
      Advances machine machine.pause
  /-- The console cannot stop, since its prompt cannot be flushed. -/
  | unprompted (code : machine.code ≠ .done) (debugging : machine.mode = .debugging) :
      Advances machine (machine.halt (some .flush))
  /-- The next instruction is executed. -/
  | executes {after : Machine} (running : machine.mode = .running)
      (executes : machine.Executes after) : Advances machine after

/-- What a console can have done that goes on behind an entry. -/
inductive Heard (machine : Machine) : Entry → Machine → Prop
  /-- It has stayed in the debugger. -/
  | stays (text : Bytes) : Heard machine (.line text) (machine.recordEntry (.line text))
  /-- It has left the debugger. -/
  | leaves (text : Bytes) :
      Heard machine (.line text) ((machine.recordEntry (.line text)).setMode .running)
  /-- It has left the debugger at the end of the input. -/
  | closes (report : Bytes) (pos : Nat) : Heard machine (.ended report)
      (((machine.recordEntry (.ended report)).record (.consoleClosed pos)).setMode .running)

/-- What a machine can do that waits for a command. -/
inductive Hears (machine : Machine) : Entry → Machine → Prop
  /-- It replies and waits for another one. -/
  | replies (text : Bytes) : Hears machine (.line text) (machine.recordEntry (.line text)).pause
  /-- It cannot wait for another one, since its prompt cannot be flushed. -/
  | unprompted (text : Bytes) :
      Hears machine (.line text) ((machine.recordEntry (.line text)).halt (some .flush))
  /-- The next instruction is executed. -/
  | goesOn {entry : Entry} {next after : Machine} (heard : machine.Heard entry next)
      (executes : next.Executes after) : Hears machine entry after
  /-- The line source fails. -/
  | failed (reason : Bytes) : Hears machine (.failed reason)
      ((machine.recordEntry (.failed reason)).halt (some (.readCommand (.failed reason))))
  /-- The line source has been cancelled. -/
  | cancelled : Hears machine .cancelled
      ((machine.recordEntry .cancelled).cancel.halt (some (.readCommand .cancelled)))

/-- What a machine can do that waits for a line of program input. -/
inductive Takes (machine : Machine) (rest : Code) : Entry → Machine → Prop
  /-- The first byte of a line is stored, and the other ones are pending. -/
  | stores {text : Bytes} {byte : UInt8} {pending : Bytes}
      (fed : machine.inputMode.fed text = byte :: pending) : Takes machine rest (.line text)
        ({ machine.recordEntry (.line text) with pending := pending }.store byte rest)
  /-- A line that has no byte is skipped. -/
  | skips {text : Bytes} (fed : machine.inputMode.fed text = []) :
      Takes machine rest (.line text) (machine.recordEntry (.line text)).await
  /-- A line that has no byte is the last one, since the output cannot be flushed. -/
  | unasked {text : Bytes} (fed : machine.inputMode.fed text = []) :
      Takes machine rest (.line text) ((machine.recordEntry (.line text)).halt (some .flush))
  /-- The input has ended. -/
  | exhausts (report : Bytes) : Takes machine rest (.ended report)
      (((machine.recordEntry (.ended report)).record
        (.inputExhausted machine.tape.pointer)).proceed rest)
  /-- The line source fails. -/
  | failed (reason : Bytes) : Takes machine rest (.failed reason)
      ((machine.recordEntry (.failed reason)).halt (some (.readInput (.failed reason))))
  /-- The line source has been cancelled. -/
  | cancelled : Takes machine rest .cancelled
      ((machine.recordEntry .cancelled).cancel.halt (some (.readInput .cancelled)))

/-- A machine waits only in front of instructions, and for program input only in front of an input
instruction that has no byte pending. -/
structure Attentive (machine : Machine) : Prop where
  stopped : machine.status = .stopped → machine.code ≠ .done
  asking : machine.status = .asking →
    machine.pending = [] ∧ ∃ pos rest, machine.code = .op pos .input rest

section

variable (machine : Machine)

/-- A run that is halted is over. -/
@[simp] theorem status_halt (error : Option RunError) :
    (machine.halt error).status = .halted error := rfl

/-- The end of a run leaves the place in the program alone. -/
theorem untouched_halt (error : Option RunError) : Untouched machine (machine.halt error) :=
  (untouched_status _ _).trans (untouched_record _ rfl)

/-- A stop in the console leaves the place in the program alone. -/
theorem untouched_pause : Untouched machine machine.pause := untouched_status _ _

/-- The start of an instruction is told behind everything else. -/
theorem told_begun {α : Type} (pos : Nat) (opcode : Opcode) (view : Event → List α) :
    (machine.begin pos opcode).told view = machine.told view ++
      view (.exec pos opcode (machine.steps + 1) machine.tape.pointer machine.tape.cell
        machine.mode) := by
  simp [told, events, begin]

/-- A flush makes no difference without the output. -/
theorem bare_flush : machine.flush.bare = machine.bare := machine.bare_deliver _

/-- A byte that is put out makes no difference without the output. -/
theorem bare_put (byte : UInt8) : (machine.put byte).bare = machine.bare := machine.bare_deliver _

/-- A change of the mode is the same without the output. -/
theorem bare_setMode (mode : Mode) : (machine.setMode mode).bare = machine.bare.setMode mode := by
  simp only [setMode, show machine.bare.mode = machine.mode from rfl]
  split
  · rfl
  · -- The change is an event of its own, but no delivery.
    rw [bare_record _ rfl]
    rfl

/-- What the line source answers is written down without the output, too. -/
theorem bare_recordEntry (entry : Entry) :
    (machine.recordEntry entry).bare = machine.bare.recordEntry entry := by
  cases entry <;> exact bare_record _ rfl

/-- A run that ends may fail with its last flush. -/
theorem bare_finish (error : Option RunError) :
    (machine.finish error).bare = machine.bare.halt
      (if error.isNone && machine.flush.writer.failed then some .flush else error) := by
  simp only [finish]
  -- Which error it is makes no difference to the output.
  generalize (if error.isNone && machine.flush.writer.failed then some .flush else error) = last
  rw [bare_record _ rfl]
  show ({ machine.flush.bare with status := .halted last }).record _ = _
  rw [bare_flush]
  rfl

/-- An error of the run itself is not replaced by one of the last flush. -/
theorem bare_fail (error : RunError) :
    (machine.finish (some error)).bare = machine.bare.halt (some error) :=
  machine.bare_finish (some error)

/-- The console stops, or its prompt cannot be flushed. -/
theorem bare_stop (pos : Nat) (opcode : Opcode) :
    (machine.stop pos opcode).bare = machine.bare.pause ∨
      (machine.stop pos opcode).bare = machine.bare.halt (some .flush) := by
  have shown := (bare_flush _).trans
    (bare_print (Console.prompt pos machine.tape.pointer opcode) machine)
  simp only [stop]
  generalize (machine.print (Console.prompt pos machine.tape.pointer opcode)).flush = prompted at *
  -- The prompt reaches the sink, or its failure ends the run.
  split
  · refine .inr ?_
    rw [bare_fail, shown]
  · exact .inl (congrArg pause shown)

/-- A line is asked for, or the output before cannot be flushed. -/
theorem bare_ask : machine.ask.bare = machine.bare.await ∨
    machine.ask.bare = machine.bare.halt (some .flush) := by
  have prompting : machine.flush.prompting = machine.prompting := rfl
  simp only [ask, prompting]
  split
  · refine .inr ?_
    rw [bare_fail, bare_flush]
  · refine .inl ?_
    simp only [await, show machine.bare.prompting = machine.prompting from rfl]
    -- The user is asked behind the flush.
    split
    · show ({ (machine.flush.record .prompted).bare with status := .asking } : Machine) = _
      rw [bare_record _ rfl, bare_flush]
    · show ({ machine.flush.bare with status := .asking } : Machine) = _
      rw [bare_flush]

/-- The current cell is put out, or the sink does not take it. -/
theorem bare_emit (rest : Code) :
    (machine.emit rest).bare = (machine.bare.record (.output machine.tape.cell)).proceed rest ∨
      (machine.emit rest).bare = machine.bare.halt (some .write) := by
  unfold emit
  extract_lets byte put written
  -- Only the writer takes part in putting out the byte and the line end behind it.
  have same : written.bare = machine.bare := by
    simp only [written]
    split
    · exact (bare_put _ _).trans (bare_put _ _)
    · exact bare_put _ _
  split
  · refine .inr ?_
    rw [bare_fail, same]
  · refine .inl ?_
    show ((written.record (.output byte)).bare).proceed rest = _
    rw [bare_record _ rfl, same]

/-- What an operation does is what it can do. -/
theorem executes_operate {pos : Nat} {action : Op} {rest : Code}
    (code : machine.code = .op pos action rest) :
    machine.bare.Executes ((machine.begin pos (.basic action)).operate pos action rest).bare := by
  have here : machine.bare.code = .op pos action rest := code
  have begun (opcode : Opcode) : (machine.begin pos opcode).bare = machine.bare.begin pos opcode :=
    rfl
  -- A move of the pointer is done or faults.
  have moves (onTape : action.isOnTape = true) :
      machine.bare.Executes ((machine.begin pos (.basic action)).move pos action
        (action.act machine.tape) rest).bare := by
    cases act : action.act machine.tape with
    | ok tape => exact .acts here onTape act
    | error fault =>
      rw [move, bare_fail, begun]
      exact .faults here onTape act
  cases action with
  | moveRight => exact moves rfl
  | moveLeft => exact moves rfl
  | increment => exact .acts here rfl rfl
  | decrement => exact .acts here rfl rfl
  | output =>
    rcases (machine.begin pos (.basic .output)).bare_emit rest with result | result <;>
      rw [operate, result, begun]
    · exact .writes here
    · exact .unwritten here
  | input =>
    simp only [operate, takeInput]
    split
    · rename_i byte pending held
      have stored : ({ machine.begin pos (.basic .input) with pending := pending }.store
          byte rest).bare =
          { machine.bare.begin pos (.basic .input) with pending := pending }.store byte rest :=
        rfl
      rw [stored]
      exact .takes here held
    · rename_i spent
      -- Nothing is pending, so a line is asked for if the flush before that succeeds.
      rcases (machine.begin pos (.basic .input)).bare_ask with result | result <;>
        rw [result, begun]
      · exact .asks here spent
      · exact .unasked here spent
  | breakpoint =>
    -- The breakpoint is told of before the mode changes.
    have switched : (((machine.begin pos (.basic .breakpoint)).record
        (.breakpoint pos)).setMode .debugging).bare =
        ((machine.bare.begin pos (.basic .breakpoint)).record
          (.breakpoint pos)).setMode .debugging := by
      rw [bare_setMode, bare_record _ rfl, begun]
    rw [operate]
    show machine.bare.Executes (proceed (bare _) rest)
    rw [switched]
    exact .breaks here

/-- The next instruction does what it can do. -/
theorem executes_execute (next : machine.code ≠ .done) :
    machine.bare.Executes machine.execute.bare := by
  cases code : machine.code with
  | done => exact absurd code next
  | op pos action rest =>
    simp only [execute, code]
    exact executes_operate machine code
  | loop pos body rest =>
    simp only [execute, code]
    exact .enters code

/-- A machine that waits for nobody does what it can do. -/
theorem advances_advance : machine.bare.Advances machine.advance.bare := by
  -- In front of an instruction the console stops in the debugger.
  have instruction (pos : Nat) (opcode : Opcode) (next : machine.code ≠ .done) :
      machine.bare.Advances (if machine.mode = .debugging then machine.stop pos opcode
        else machine.execute).bare := by
    split
    · rename_i debugging
      rcases machine.bare_stop pos opcode with result | result <;> rw [result]
      · exact .stops next debugging
      · exact .unprompted next debugging
    · rename_i outside
      -- A machine outside the debugger executes the instruction at once.
      have running : machine.mode = .running := by
        cases mode : machine.mode with
        | running => rfl
        | debugging => exact absurd mode outside
      exact .executes running (machine.executes_execute next)
  cases code : machine.code with
  | done =>
    cases loops : machine.loops with
    | nil =>
      simp only [advance, code, loops]
      rw [bare_finish]
      refine .ends code loops ?_
      cases machine.flush.writer.failed <;> simp
    | cons innermost outer =>
      -- The current cell decides on another pass, and then the cancellation does.
      simp only [advance, code, loops, test]
      split
      · rename_i zero
        exact .leaves code loops zero
      · rename_i nonzero
        split
        · rename_i refused
          rw [bare_fail, ← code, ← loops]
          exact .cut code (by simp [bare, loops]) nonzero refused
        · rename_i allowed
          have free : machine.bare.checked.cancellation.cancelled = false := by
            simpa [checked, bare] using allowed
          rw [← loops]
          exact .repeats code loops nonzero free
  | op pos action rest =>
    simp only [advance, code]
    exact instruction pos (.basic action) (by simp [code])
  | loop pos body rest =>
    simp only [advance, code]
    exact instruction pos .loop (by simp [code])

end

section

variable {machine : Machine}

/-- The console does what it can do. -/
theorem hears_receiveCommand (next : machine.code ≠ .done) (pos : Nat) (opcode : Opcode)
    (entry : Entry) :
    machine.bare.Hears entry
      ((machine.recordEntry entry).receiveCommand pos opcode entry).bare := by
  have noted := machine.bare_recordEntry entry
  have behind : (machine.recordEntry entry).code ≠ .done := by
    rw [(machine.untouched_recordEntry entry).code]
    exact next
  generalize machine.recordEntry entry = heard at *
  cases entry with
  | line text =>
    -- Whatever it prints, the console stops again, unless it is told to go on.
    have stops (shown : Machine) (same : shown.bare = heard.bare) :
        machine.bare.Hears (.line text) (shown.stop pos opcode).bare := by
      rcases shown.bare_stop pos opcode with result | result <;> rw [result, same, noted]
      · exact .replies text
      · exact .unprompted text
    simp only [receiveCommand, command]
    split
    · exact stops heard rfl
    · cases Command.parse? text with
      | none => exact stops _ (bare_printLine _ _)
      | some request =>
        cases request with
        | next =>
          have executes := heard.executes_execute behind
          rw [noted] at executes
          exact .goesOn (.stays text) executes
        | exit =>
          have executes := (heard.setMode .running).executes_execute
            (by rw [(heard.untouched_setMode .running).code]; exact behind)
          rw [bare_setMode, noted] at executes
          exact .goesOn (.leaves text) executes
        | code => exact stops _ (bare_answer _ _ _ _)
        | mem => exact stops _ (bare_answer _ _ _ _)
        | info => exact stops _ (bare_answer _ _ _ _)
        | help => exact stops _ (bare_answer _ _ _ _)
  | ended report =>
    -- The end of the console input is told of, and the run goes on outside the debugger.
    have executes := ((heard.record (.consoleClosed pos)).setMode .running).executes_execute
      (by rw [(untouched_setMode _ .running).code]; exact behind)
    rw [bare_setMode, bare_record _ rfl, noted] at executes
    exact .goesOn (.closes report pos) executes
  | failed reason =>
    simp only [receiveCommand, bare_fail, noted]
    exact .failed reason
  | cancelled =>
    simp only [receiveCommand, bare_fail]
    show machine.bare.Hears .cancelled (halt (cancel heard.bare) _)
    rw [noted]
    exact .cancelled

/-- An input instruction that has waited does what it can do. -/
theorem takes_receiveInput (spent : machine.pending = []) (rest : Code) (entry : Entry) :
    machine.bare.Takes rest entry ((machine.recordEntry entry).receiveInput rest entry).bare := by
  have noted := machine.bare_recordEntry entry
  have left : (machine.recordEntry entry).pending = [] := by
    rw [(machine.untouched_recordEntry entry).pending, spent]
  have taken : (machine.recordEntry entry).inputMode = machine.inputMode :=
    (machine.untouched_recordEntry entry).inputMode
  have place : (machine.recordEntry entry).tape = machine.tape :=
    (machine.untouched_recordEntry entry).tape
  generalize machine.recordEntry entry = heard at *
  -- A byte is stored in front of what is pending from then on.
  have stores {text : Bytes} (same : heard.bare = machine.bare.recordEntry (.line text))
      {byte : UInt8} {pending : Bytes} (fed : machine.inputMode.fed text = byte :: pending) :
      machine.bare.Takes rest (.line text)
        ({ heard with pending := pending }.store byte rest).bare := by
    have stored : ({ heard with pending := pending }.store byte rest).bare =
        { heard.bare with pending := pending }.store byte rest := rfl
    rw [stored, same]
    exact .stores fed
  have unchanged : { heard with pending := [] } = heard := by rw [← left]
  cases entry with
  | line text =>
    cases mode : machine.inputMode with
    | stream =>
      cases text with
      | nil =>
        -- An empty line is a line feed for stream input.
        have direct := stores noted (show machine.inputMode.fed [] = newline :: [] by
          rw [mode]; rfl)
        rw [unchanged] at direct
        simpa only [receiveInput, taken, mode] using direct
      | cons byte more =>
        have direct := stores noted (show machine.inputMode.fed (byte :: more) =
          byte :: (more ++ [newline]) by rw [mode]; rfl)
        simpa only [receiveInput, taken, mode] using direct
    | line =>
      cases text with
      | nil =>
        have nothing : machine.bare.inputMode.fed [] = [] := by
          rw [show machine.bare.inputMode = .line from mode]
          rfl
        simp only [receiveInput, taken, mode]
        rcases heard.bare_ask with result | result <;> rw [result, noted]
        · exact .skips nothing
        · exact .unasked nothing
      | cons byte more =>
        have direct := stores noted (show machine.inputMode.fed (byte :: more) = byte :: [] by
          rw [mode]; rfl)
        rw [unchanged] at direct
        simpa only [receiveInput, taken, mode] using direct
  | ended report =>
    -- The cell stays as it is, and the run goes on behind the instruction.
    have recorded : (heard.record (.inputExhausted heard.tape.pointer)).bare =
        heard.bare.record (.inputExhausted heard.tape.pointer) := heard.bare_record rfl
    show machine.bare.Takes rest (.ended report) (proceed (bare _) rest)
    rw [recorded, noted, place]
    exact .exhausts report
  | failed reason =>
    simp only [receiveInput, bare_fail, noted]
    exact .failed reason
  | cancelled =>
    simp only [receiveInput, bare_fail]
    show machine.bare.Takes rest .cancelled (halt (cancel heard.bare) _)
    rw [noted]
    exact .cancelled

end

variable {machine after : Machine}

/-- The console itself touches nothing. -/
theorem Heard.untouched {entry : Entry} {heard : Machine} (hears : machine.Heard entry heard) :
    Untouched machine heard := by
  cases hears with
  -- Writing down what is heard and changing the mode are all that it does.
  | stays text => exact machine.untouched_recordEntry _
  | leaves text => exact (machine.untouched_recordEntry _).trans (untouched_setMode _ _)
  | closes report pos =>
    exact ((machine.untouched_recordEntry _).trans (untouched_record _ rfl)).trans
      (untouched_setMode _ _)

/-- A machine that does not wait is attentive. -/
theorem attentive_of_idle (console : machine.status ≠ .stopped) (input : machine.status ≠ .asking) :
    machine.Attentive :=
  ⟨fun stopped => absurd stopped console, fun asking => absurd asking input⟩

/-- A machine that waits in front of an instruction for a command is attentive. -/
theorem attentive_pause (next : machine.code ≠ .done) : machine.pause.Attentive :=
  ⟨fun _ => next, nofun⟩

/-- A machine that waits in front of an input instruction is attentive if nothing is pending. -/
theorem attentive_await (spent : machine.pending = []) {pos : Nat} {rest : Code}
    (code : machine.code = .op pos .input rest) : machine.await.Attentive := by
  have kept := machine.untouched_await
  exact ⟨nofun, fun _ => ⟨kept.pending.trans spent, pos, rest, kept.code.trans code⟩⟩

/-- Whatever an instruction does, the machine is attentive behind it. -/
theorem Executes.attentive (executes : machine.Executes after) : after.Attentive := by
  -- An instruction that waits is an input instruction without a byte.
  cases executes with
  | asks code spent => exact attentive_await spent code
  | enters code => exact attentive_of_idle nofun nofun
  | acts code onTape act => exact attentive_of_idle nofun nofun
  | faults code onTape act => exact attentive_of_idle nofun nofun
  | writes code => exact attentive_of_idle nofun nofun
  | unwritten code => exact attentive_of_idle nofun nofun
  | takes code held => exact attentive_of_idle nofun nofun
  | unasked code spent => exact attentive_of_idle nofun nofun
  | breaks code => exact attentive_of_idle nofun nofun

/-- Whatever a machine does that waits for nobody, it is attentive behind it. -/
theorem Advances.attentive (advances : machine.Advances after) (ready : machine.status = .ready) :
    after.Attentive := by
  -- Loops are tested without a wait, and the console stops in front of an instruction.
  cases advances with
  | leaves code loops zero => exact attentive_of_idle (by simp [ready]) (by simp [ready])
  | repeats code loops nonzero allowed =>
    exact attentive_of_idle (by simp [checked, ready]) (by simp [checked, ready])
  | cut code around nonzero refused => exact attentive_of_idle nofun nofun
  | ends code outside last => exact attentive_of_idle nofun nofun
  | stops code debugging => exact attentive_pause code
  | unprompted code debugging => exact attentive_of_idle nofun nofun
  | executes running executes => exact executes.attentive

/-- Whatever the console does, the machine is attentive behind it. -/
theorem Hears.attentive {entry : Entry} (hears : machine.Hears entry after)
    (next : machine.code ≠ .done) : after.Attentive := by
  -- The console has not moved, so it stops in front of the same instruction again.
  cases hears with
  | replies text => exact attentive_pause next
  | unprompted text => exact attentive_of_idle nofun nofun
  | goesOn heard executes => exact executes.attentive
  | failed reason => exact attentive_of_idle nofun nofun
  | cancelled => exact attentive_of_idle nofun nofun

/-- Whatever a waiting input instruction does, the machine is attentive behind it. -/
theorem Takes.attentive {rest : Code} {entry : Entry} (takes : machine.Takes rest entry after)
    (spent : machine.pending = []) {pos : Nat} (code : machine.code = .op pos .input rest) :
    after.Attentive := by
  -- A line without a byte leaves nothing pending, so the instruction waits for another one.
  cases takes with
  | stores fed => exact attentive_of_idle nofun nofun
  | skips fed => exact attentive_await spent code
  | unasked fed => exact attentive_of_idle nofun nofun
  | exhausts report => exact attentive_of_idle nofun nofun
  | failed reason => exact attentive_of_idle nofun nofun
  | cancelled => exact attentive_of_idle nofun nofun

/-- Without its output a machine waits where it waits with it. -/
theorem Attentive.of_bare (attentive : machine.bare.Attentive) : machine.Attentive :=
  ⟨attentive.stopped, attentive.asking⟩

end Machine

namespace Session

/-- Everything that one move of a session can do. -/
inductive Deed (session : Session) : Machine → Prop
  /-- The machine waits for nobody. -/
  | advances {after : Machine} (ready : session.machine.status = .ready)
      (advances : session.machine.bare.Advances after) : Deed session after
  /-- The console gets an entry. -/
  | hears {after : Machine} {entry : Entry} (stopped : session.machine.status = .stopped)
      (handed : session.handed? = some entry)
      (hears : session.machine.bare.Hears entry after) : Deed session after
  /-- An input instruction gets an entry. -/
  | takes {after : Machine} {entry : Entry} {pos : Nat} {rest : Code}
      (asking : session.machine.status = .asking) (handed : session.handed? = some entry)
      (spent : session.machine.pending = []) (code : session.machine.code = .op pos .input rest)
      (takes : session.machine.bare.Takes rest entry after) : Deed session after
  /-- The run is over. -/
  | rests (halted : session.machine.isHalted = true) : Deed session session.machine.bare

variable {session : Session}

/-- A move is one of those that a machine can make. -/
theorem deed_step (attentive : session.machine.Attentive) :
    session.Deed session.step.machine.bare := by
  cases status : session.machine.status with
  | ready =>
    simp only [step, status]
    exact .advances status session.machine.advances_advance
  | stopped =>
    -- The entry is the next one of the script, or the end of the input behind the last one.
    have next := attentive.stopped status
    have heard (pos : Nat) (opcode : Opcode) := Machine.hears_receiveCommand next pos opcode
      (session.script.headD .endOfInput)
    have handed : session.handed? = some (session.script.headD .endOfInput) := by
      simp [handed?, status]
    refine .hears status handed ?_
    simp only [step, status, handOver_eq, Machine.receive]
    cases code : session.machine.code with
    | done => exact absurd code next
    | op pos action rest => exact heard pos (.basic action)
    | loop pos body rest => exact heard pos .loop
  | asking =>
    obtain ⟨spent, pos, rest, code⟩ := attentive.asking status
    have handed : session.handed? = some (session.script.headD .endOfInput) := by
      simp [handed?, status]
    refine .takes status handed spent code ?_
    simp only [step, status, handOver_eq, Machine.receive, code]
    exact Machine.takes_receiveInput spent rest _
  | halted error =>
    have halted : session.machine.isHalted = true := by simp [Machine.isHalted, status]
    rw [step_of_halted halted]
    exact .rests halted

/-- A move leaves the machine attentive. -/
theorem attentive_step (attentive : session.machine.Attentive) :
    session.step.machine.Attentive := by
  have deed := deed_step attentive
  refine Machine.Attentive.of_bare ?_
  generalize session.step.machine.bare = after at deed ⊢
  cases deed with
  -- One case for each kind of move.
  | advances ready advances => exact advances.attentive ready
  | hears stopped handed hears => exact hears.attentive (attentive.stopped stopped)
  | takes asking handed spent code takes => exact takes.attentive spent code
  | rests halted => exact ⟨attentive.stopped, attentive.asking⟩

/-- Whatever a fresh machine comes to is attentive. -/
theorem Reaches.attentive {blueprint : Blueprint} {script : List Entry}
    (reached : Reaches ⟨blueprint.machine, script⟩ session) : session.machine.Attentive := by
  induction reached with
  | refl => exact Machine.attentive_of_idle nofun nofun
  | step _ ih => exact attentive_step ih
  | rerun cancellation _ _ _ => exact Machine.attentive_of_idle nofun nofun

end Session

end TapeMachine
