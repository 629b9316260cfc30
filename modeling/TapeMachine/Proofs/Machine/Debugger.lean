import TapeMachine.Proofs.Machine.Place
import TapeMachine.Proofs.Machine.Undisturbed
import TapeMachine.Proofs.Program.Breakpoint
import Mathlib.Data.List.Forall2

/-! The debugger does not change what a program means: a run with breakpoints, stops and commands
does to the tape, the input and the output what the run without them does. -/

namespace TapeMachine

namespace Event

/-- The byte that the program puts out. -/
def outputs : Event → Bytes
  | output byte => [byte]
  | _ => []

/-- The byte that the program takes in. -/
def inputs : Event → Bytes
  | input byte => [byte]
  | _ => []

/-- The position of a breakpoint that executes. -/
def breaks : Event → List Nat
  | breakpoint pos => [pos]
  | _ => []

/-- Only the program itself puts bytes out. -/
theorem outputs_of_foreign (event : Event) (foreign : event.isOwn = false) :
    event.outputs = [] := by
  cases event <;> first | rfl | cases foreign

/-- Only the program itself takes bytes in. -/
theorem inputs_of_foreign (event : Event) (foreign : event.isOwn = false) :
    event.inputs = [] := by
  cases event <;> first | rfl | cases foreign

/-- Only the program itself executes breakpoints. -/
theorem breaks_of_foreign (event : Event) (foreign : event.isOwn = false) :
    event.breaks = [] := by
  cases event <;> first | rfl | cases foreign

end Event

/-- Whether an entry is a line or the end of the input. -/
def Entry.isOrderly : Entry → Bool
  | line _ | ended _ => true
  | failed _ | cancelled => false

/-- Two runs end in the same way, wherever the last instruction stands in its listing. -/
inductive SameOutcome : Option RunError → Option RunError → Prop
  /-- Both end without an error. -/
  | finished : SameOutcome none none
  /-- The same instruction moves both pointers off the tape at the same place. -/
  | faulted (pos place : Nat) (opcode : Opcode) (pointer : Nat) (fault : PointerFault) :
      SameOutcome (some (.pointer pos opcode pointer fault))
        (some (.pointer place opcode pointer fault))

/-- Two loops differ in nothing but breakpoints that only the first one has, and in positions. -/
structure ActiveLoop.Unbroken (loop plain : ActiveLoop) : Prop where
  inside : loop.body.Unbroken plain.body
  behind : loop.rest.Unbroken plain.rest

/-- A machine that runs on without breakpoints has the data of a machine under the debugger. What
the debugger prints is left out of the output, and breakpoints are left out of the steps. -/
structure Shadows (machine plain : Machine) : Prop where
  endless : machine.writer.Unlimited
  plainEndless : plain.writer.Unlimited
  calm : machine.cancellation = .never
  plainCalm : plain.cancellation = .never
  running : plain.mode = .running
  taken : plain.inputMode = machine.inputMode
  loops : List.Forall₂ ActiveLoop.Unbroken machine.loops plain.loops
  tape : plain.tape = machine.tape
  pending : plain.pending = machine.pending
  output : plain.emitted = machine.told Event.outputs
  inputs : plain.told Event.inputs = machine.told Event.inputs
  steps : machine.steps = plain.steps + (machine.told Event.breaks).length

/-- A machine without breakpoints follows a machine under the debugger. It does not take part in the
stops. -/
inductive Follows (machine plain : Machine) : Prop
  /-- Both go on with the same code. -/
  | ready (data : Shadows machine plain) (first : machine.status = .ready)
      (second : plain.status = .ready) (code : machine.code.Unbroken plain.code)
  /-- The console waits for a command in front of an instruction. -/
  | stopped (data : Shadows machine plain) (first : machine.status = .stopped)
      (second : plain.status = .ready) (code : machine.code.Unbroken plain.code)
      (next : machine.code ≠ .done)
  /-- Both wait for a line of input. -/
  | asking (data : Shadows machine plain) (first : machine.status = .asking)
      (second : plain.status = .asking) {pos place : Nat} {rest plainRest : Code}
      (next : machine.code = .op pos .input rest)
      (plainNext : plain.code = .op place .input plainRest) (behind : rest.Unbroken plainRest)
  /-- Both runs are over, and all output has reached the sink. -/
  | halted (data : Shadows machine plain) {error other : Option RunError}
      (first : machine.status = .halted error) (second : plain.status = .halted other)
      (same : SameOutcome error other) (empty : plain.writer.buffer = #[])

namespace Shadows

variable {machine plain : Machine}

/-- What leaves the first program untouched changes none of the data. -/
theorem untouched (shadows : Shadows machine plain) {after : Machine}
    (kept : machine.Untouched after) : Shadows after plain where
  endless := kept.unlimited shadows.endless
  plainEndless := shadows.plainEndless
  calm := kept.cancellation.trans shadows.calm
  plainCalm := shadows.plainCalm
  running := shadows.running
  taken := shadows.taken.trans kept.inputMode.symm
  loops := by rw [kept.loops]; exact shadows.loops
  tape := shadows.tape.trans kept.tape.symm
  pending := shadows.pending.trans kept.pending.symm
  output := by rw [kept.told Event.outputs_of_foreign, shadows.output]
  inputs := by rw [kept.told Event.inputs_of_foreign, shadows.inputs]
  steps := by rw [kept.steps, kept.told Event.breaks_of_foreign, shadows.steps]

/-- What leaves the second program untouched changes none of the data, as long as the machine runs
on and puts nothing out. -/
theorem plainUntouched (shadows : Shadows machine plain) {after : Machine}
    (kept : plain.Untouched after) (mode : after.mode = plain.mode)
    (silent : after.emitted = plain.emitted) : Shadows machine after where
  endless := shadows.endless
  plainEndless := kept.unlimited shadows.plainEndless
  calm := shadows.calm
  plainCalm := kept.cancellation.trans shadows.plainCalm
  running := mode.trans shadows.running
  taken := kept.inputMode.trans shadows.taken
  loops := by rw [kept.loops]; exact shadows.loops
  tape := kept.tape.trans shadows.tape
  pending := kept.pending.trans shadows.pending
  output := silent.trans shadows.output
  inputs := by rw [kept.told Event.inputs_of_foreign, shadows.inputs]
  steps := by rw [kept.steps, shadows.steps]

/-- Both machines may start an instruction. -/
theorem begin (shadows : Shadows machine plain) (pos place : Nat) (opcode : Opcode) :
    Shadows (machine.begin pos opcode) (plain.begin place opcode) :=
  { shadows with
    calm := Machine.cancellation_begin shadows.calm pos opcode
    plainCalm := Machine.cancellation_begin shadows.plainCalm place opcode
    output := by
      rw [plain.emitted_begin, machine.told_begin pos opcode fun _ _ _ _ => rfl, shadows.output]
    inputs := by
      rw [plain.told_begin place opcode fun _ _ _ _ => rfl,
        machine.told_begin pos opcode fun _ _ _ _ => rfl, shadows.inputs]
    steps := by
      rw [machine.told_begin pos opcode fun _ _ _ _ => rfl]
      simp only [Machine.begin, shadows.steps]
      omega }

/-- Both machines may write the same byte to their tape. -/
theorem write (shadows : Shadows machine plain) (value : UInt8) :
    Shadows { machine with tape := machine.tape.write value }
      { plain with tape := plain.tape.write value } :=
  { shadows with tape := by rw [shadows.tape] }

/-- Both machines may write down that they took a byte in. -/
theorem recordInput (shadows : Shadows machine plain) (byte : UInt8) :
    Shadows (machine.record (.input byte)) (plain.record (.input byte)) :=
  { shadows with
    output := by
      rw [Machine.emitted_record _ rfl, Machine.told_record, shadows.output]
      simp [Event.outputs]
    inputs := by rw [Machine.told_record, Machine.told_record, shadows.inputs]
    steps := by
      simp only [Machine.told_record, Event.breaks, List.append_nil]
      exact shadows.steps }

/-- Both machines may go on behind an instruction. -/
theorem proceed (shadows : Shadows machine plain) {rest plainRest : Code}
    (behind : rest.Unbroken plainRest) : Follows (machine.proceed rest) (plain.proceed plainRest) :=
  .ready { shadows with } rfl rfl behind

/-- Both machines may end their runs in the same way. -/
theorem finish (shadows : Shadows machine plain) {error other : Option RunError}
    (same : SameOutcome error other) : Follows (machine.finish error) (plain.finish other) := by
  -- Ending a run touches neither program, and the last flush keeps the output in order.
  have data := (shadows.untouched (machine.untouched_finish error)).plainUntouched
    (plain.untouched_finish other) rfl (Machine.emitted_finish shadows.plainEndless other)
  exact .halted data (Machine.status_finish_of_unlimited shadows.endless error)
    (Machine.status_finish_of_unlimited shadows.plainEndless other) same
    (Machine.buffer_flush shadows.plainEndless)

/-- Both machines may ask for a line of input. -/
theorem ask (shadows : Shadows machine plain) {pos place : Nat} {rest plainRest : Code}
    (next : machine.code = .op pos .input rest)
    (plainNext : plain.code = .op place .input plainRest)
    (behind : rest.Unbroken plainRest) : Follows machine.ask plain.ask := by
  -- Asking flushes the output, which puts nothing new out.
  have data := (shadows.untouched machine.untouched_ask).plainUntouched plain.untouched_ask
    plain.mode_ask (Machine.emitted_ask shadows.plainEndless)
  exact .asking data (Machine.status_ask_of_unlimited shadows.endless)
    (Machine.status_ask_of_unlimited shadows.plainEndless)
    (machine.untouched_ask.code.trans next) (plain.untouched_ask.code.trans plainNext) behind

/-- Both machines may store the same byte of input. -/
theorem store (shadows : Shadows machine plain) (byte : UInt8) {rest plainRest : Code}
    (behind : rest.Unbroken plainRest) :
    Follows (machine.store byte rest) (plain.store byte plainRest) :=
  ((shadows.write byte).recordInput byte).proceed behind

/-- Both machines may move their pointers, with the same fault if there is one. -/
theorem move (shadows : Shadows machine plain) (pos place : Nat) (action : Op)
    (moved : Except PointerFault Tape) {rest plainRest : Code} (behind : rest.Unbroken plainRest) :
    Follows (machine.move pos action moved rest) (plain.move place action moved plainRest) := by
  cases moved with
  | ok tape =>
    have there : Shadows { machine with tape := tape } { plain with tape := tape } :=
      { shadows with tape := rfl }
    exact there.proceed behind
  | error fault =>
    simp only [Machine.move]
    -- The two instructions may have different positions, but the pointers are the same.
    rw [shadows.tape]
    exact shadows.finish (.faulted _ _ _ _ _)

/-- Both machines may put the current cell out; the debugger adds a line end that is not the
program's. -/
theorem emit (shadows : Shadows machine plain) {rest plainRest : Code}
    (behind : rest.Unbroken plainRest) : Follows (machine.emit rest) (plain.emit plainRest) := by
  obtain ⟨written, kept, result⟩ := machine.emit_eq rest
  have sound := (kept.unlimited shadows.endless).sound
  have after := shadows.untouched kept
  rw [result, sound, Machine.emit_of_running shadows.plainEndless shadows.running, shadows.tape]
  have plainKept := plain.untouched_put machine.tape.cell
  -- What the debugger adds is told by no output event.
  have told : Shadows (written.record (.output machine.tape.cell))
      ((plain.put machine.tape.cell).record (.output machine.tape.cell)) :=
    { after with
      plainEndless := plainKept.unlimited shadows.plainEndless
      output := by
        rw [Machine.emitted_record _ rfl, Machine.emitted_put shadows.plainEndless,
          Machine.told_record, after.output]
        rfl
      inputs := by
        rw [Machine.told_record, Machine.told_record, plainKept.told Event.inputs_of_foreign,
          after.inputs]
      steps := by
        simp only [Machine.told_record, Event.breaks, List.append_nil]
        exact after.steps }
  exact told.proceed behind

/-- Any operation but a breakpoint is done by both machines alike. -/
theorem operate (shadows : Shadows machine plain) {pos place : Nat} {action : Op}
    {rest plainRest : Code} (next : machine.code = .op pos action rest)
    (plainNext : plain.code = .op place action plainRest) (proper : action ≠ .breakpoint)
    (behind : rest.Unbroken plainRest) :
    Follows (machine.operate pos action rest) (plain.operate place action plainRest) := by
  have same := shadows.tape
  cases action with
  | moveRight =>
    simp only [Machine.operate]
    rw [same]
    exact shadows.move _ _ _ _ behind
  | moveLeft =>
    simp only [Machine.operate]
    rw [same]
    exact shadows.move _ _ _ _ behind
  | increment =>
    simp only [Machine.operate]
    rw [show plain.tape.cell = machine.tape.cell by rw [same]]
    exact (shadows.write _).proceed behind
  | decrement =>
    simp only [Machine.operate]
    rw [show plain.tape.cell = machine.tape.cell by rw [same]]
    exact (shadows.write _).proceed behind
  | output => exact shadows.emit behind
  | input =>
    -- Bytes that are pending are the same for both, so both take one or both ask.
    simp only [Machine.operate, Machine.takeInput]
    rw [shadows.pending]
    cases machine.pending with
    | nil => exact shadows.ask next plainNext behind
    | cons byte more =>
      have taken : Shadows { machine with pending := more } { plain with pending := more } :=
        { shadows with pending := rfl }
      exact taken.store byte behind
  | breakpoint => exact absurd rfl proper

/-- A breakpoint is one step more for the first machine and changes nothing else. -/
theorem breakpoint (shadows : Shadows machine plain) (pos : Nat) :
    Shadows ((machine.begin pos (.basic .breakpoint)).record (.breakpoint pos)) plain :=
  { shadows with
    calm := Machine.cancellation_begin shadows.calm pos (.basic .breakpoint)
    output := by
      rw [Machine.told_record, machine.told_begin _ _ fun _ _ _ _ => rfl, shadows.output]
      simp [Event.outputs]
    inputs := by
      rw [Machine.told_record, machine.told_begin _ _ fun _ _ _ _ => rfl, shadows.inputs]
      simp [Event.inputs]
    steps := by
      rw [Machine.told_record, machine.told_begin _ _ fun _ _ _ _ => rfl]
      simp only [Machine.record, Machine.begin, shadows.steps, Event.breaks, List.length_append,
        List.length_singleton]
      omega }

/-- The first machine executes its next instruction. If that is no breakpoint, the second one does
the same. -/
theorem execute (shadows : Shadows machine plain) (ready : plain.status = .ready)
    (code : machine.code.Unbroken plain.code) (next : machine.code ≠ .done) :
    Follows machine.execute plain ∨ Follows machine.execute plain.advance := by
  -- The two next instructions are compared by the way in which the two sequences differ.
  generalize first : machine.code = whole at code next
  generalize second : plain.code = bare at code
  cases code with
  | done => exact absurd rfl next
  | @breakpoint pos rest _ behind =>
    -- The breakpoint may switch the mode, which the second machine does not see.
    have switched := Machine.untouched_setMode
      ((machine.begin pos (.basic .breakpoint)).record (.breakpoint pos)) .debugging
    have after := (shadows.breakpoint pos).untouched switched
    simp only [Machine.execute, first, Machine.operate]
    exact .inl (.ready { after with } rfl ready (by rw [second]; exact behind))
  | @op pos place action rest _ proper behind =>
    right
    simp only [Machine.execute, Machine.advance, first, second, shadows.running, reduceCtorEq,
      if_false]
    exact (shadows.begin pos place _).operate first second proper behind
  | @loop pos place body rest plainBody plainRest inside behind =>
    right
    simp only [Machine.execute, Machine.advance, first, second, shadows.running, reduceCtorEq,
      if_false]
    have entered := shadows.begin pos place .loop
    exact .ready { entered with loops := .cons ⟨inside, behind⟩ shadows.loops } rfl rfl .done

/-- At the end of a sequence both machines test the same loop, or end their runs. -/
theorem advance_done (shadows : Shadows machine plain) (first : machine.status = .ready)
    (second : plain.status = .ready) (empty : machine.code = .done)
    (plainEmpty : plain.code = .done) :
    Follows machine.advance plain.advance := by
  have around := shadows.loops
  simp only [Machine.advance, empty, plainEmpty]
  -- The loops around both sequences are the same but for breakpoints.
  generalize loops : machine.loops = enclosing at around
  generalize plainLoops : plain.loops = plainEnclosing at around
  cases around with
  | nil => exact shadows.finish .finished
  | @cons innermost plainInnermost outer plainOuter unbroken outside =>
    have same : plain.tape.cell = machine.tape.cell := by rw [shadows.tape]
    dsimp only
    rw [Machine.test_of_calm shadows.calm, Machine.test_of_calm shadows.plainCalm, same]
    split
    · exact .ready { shadows with loops := outside } first second unbroken.behind
    · exact .ready { shadows with } first second unbroken.inside

/-- The move of a machine under the debugger that waits for nobody: it stops without the second
machine, or both do the same. -/
theorem advance (shadows : Shadows machine plain) (first : machine.status = .ready)
    (second : plain.status = .ready) (code : machine.code.Unbroken plain.code) :
    Follows machine.advance plain ∨ Follows machine.advance plain.advance := by
  -- Breakpoints in front of the end still have to be executed, so only the first machine's code
  -- decides whether there is an instruction.
  by_cases next : machine.code = .done
  · have plainNext : plain.code = .done := by
      rw [next] at code
      generalize plain.code = bare at code
      cases code
      rfl
    exact .inr (shadows.advance_done first second next plainNext)
  · obtain ⟨pos, opcode, result⟩ := Machine.advance_of_next next
    rw [result]
    split
    · have kept := machine.untouched_stop pos opcode
      refine .inl (.stopped (shadows.untouched kept) ?_ second ?_ ?_)
      · exact Machine.status_stop_of_unlimited shadows.endless pos opcode
      · rw [kept.code]; exact code
      · rw [kept.code]; exact next
    · exact shadows.execute second code next

/-- A command is for the first machine alone, until it makes that machine execute its next
instruction. -/
theorem receiveCommand (shadows : Shadows machine plain) (first : machine.status = .stopped)
    (second : plain.status = .ready) (code : machine.code.Unbroken plain.code)
    (next : machine.code ≠ .done) {entry : Entry} (orderly : entry.isOrderly = true) :
    Follows (machine.receive entry) plain ∨ Follows (machine.receive entry) plain.advance := by
  obtain ⟨pos, opcode, result⟩ := Machine.receive_of_stopped first next entry
  have noted := machine.untouched_recordEntry entry
  rw [result]
  -- A command cannot touch the program, so the data stays related whatever it is.
  rcases (machine.recordEntry entry).receiveCommand_cases pos opcode entry with
    ⟨heard, listened, stopped | executed⟩ | ⟨reason, failed, -⟩ | ⟨cancelled, -⟩
  · -- The console has answered and waits for the next command.
    have kept := (noted.trans listened).trans (heard.untouched_stop pos opcode)
    rw [stopped]
    refine .inl (.stopped (shadows.untouched kept) ?_ second ?_ ?_)
    · exact Machine.status_stop_of_unlimited
        ((noted.trans listened).unlimited shadows.endless) pos opcode
    · rw [kept.code]; exact code
    · rw [kept.code]; exact next
  · have kept := noted.trans listened
    rw [executed]
    refine (shadows.untouched kept).execute second ?_ ?_
    · rw [kept.code]; exact code
    · rw [kept.code]; exact next
  · simp [failed, Entry.isOrderly] at orderly
  · simp [cancelled, Entry.isOrderly] at orderly

/-- What the line source hands out for an input instruction is taken by both machines alike. -/
theorem receiveInput (shadows : Shadows machine plain) (first : machine.status = .asking)
    (second : plain.status = .asking) {pos place : Nat} {rest plainRest : Code}
    (next : machine.code = .op pos .input rest)
    (plainNext : plain.code = .op place .input plainRest)
    (behind : rest.Unbroken plainRest) (entry : Entry) (orderly : entry.isOrderly = true) :
    Follows (machine.receive entry) (plain.receive entry) := by
  have noted : Shadows (machine.recordEntry entry) (plain.recordEntry entry) := by
    refine (shadows.untouched (machine.untouched_recordEntry entry)).plainUntouched
      (plain.untouched_recordEntry entry) ?_ (plain.emitted_recordEntry entry)
    cases entry <;> rfl
  simp only [Machine.receive, first, second, next, plainNext]
  cases entry with
  | failed reason => cases orderly
  | cancelled => cases orderly
  | ended report =>
    simp only [Machine.receiveInput]
    refine Shadows.proceed ?_ behind
    exact (noted.untouched (Machine.untouched_record _ rfl)).plainUntouched
      (Machine.untouched_record _ rfl) rfl (Machine.emitted_record _ rfl)
  | line text =>
    -- Both machines read lines in the same way.
    cases mode : (machine.recordEntry (.line text)).inputMode with
    | stream =>
      have plainMode := noted.taken.trans mode
      cases text with
      | nil => simpa [Machine.receiveInput, mode, plainMode] using noted.store newline behind
      | cons byte more =>
        have kept : Shadows
            { machine.recordEntry (.line (byte :: more)) with pending := more ++ [newline] }
            { plain.recordEntry (.line (byte :: more)) with pending := more ++ [newline] } :=
          { noted with pending := rfl }
        simpa [Machine.receiveInput, mode, plainMode] using kept.store byte behind
    | line =>
      have plainMode := noted.taken.trans mode
      cases text with
      | nil =>
        simpa [Machine.receiveInput, mode, plainMode] using noted.ask next plainNext behind
      | cons byte more =>
        simpa [Machine.receiveInput, mode, plainMode] using noted.store byte behind

end Shadows

namespace Session

/-- The entries of the script that the input instructions get in a number of moves. -/
def inputEntries : Nat → Session → List Entry
  | 0, _ => []
  | moves + 1, session =>
    (if session.machine.status = .asking then session.script.take 1 else []) ++
      session.step.inputEntries moves

/-- The script without the entries that the console takes in a number of moves: the entries that
the input instructions get, and then those that nobody has asked for. -/
def inputScript (moves : Nat) (session : Session) : List Entry :=
  session.inputEntries moves ++ (session.run moves).script

/-- A line source that has nothing left has nothing left after a move. -/
theorem script_step_of_nil {session : Session} (nothing : session.script = []) :
    session.step.script = [] := by
  unfold step
  split <;> simp [handOver, nothing]

/-- A line source that has nothing left hands nothing to the input instructions. -/
theorem inputScript_of_nil (moves : Nat) :
    ∀ {session : Session}, session.script = [] → session.inputScript moves = [] := by
  induction moves with
  | zero => exact fun nothing => by simp [inputScript, inputEntries, run, nothing]
  | succ moves ih =>
    intro session nothing
    have later := ih (script_step_of_nil nothing)
    simp only [inputScript, run_eq_iterate, List.append_eq_nil_iff] at later ⊢
    simp [inputEntries, nothing, later]

/-- The first move of many hands the first entry over. -/
theorem inputScript_succ (moves : Nat) (session : Session) :
    session.inputScript (moves + 1) =
      (if session.machine.status = .asking then session.script.take 1 else []) ++
        session.step.inputScript moves := by
  simp [inputScript, inputEntries, run_eq_iterate]

/-- What the script holds after a move, it held before. -/
theorem mem_script_of_step {session : Session} {entry : Entry}
    (held : entry ∈ session.step.script) : entry ∈ session.script := by
  unfold step handOver at held
  split at held
  · exact held
  · split at held
    · cases held
    · rename_i given
      rw [given]
      exact List.mem_cons_of_mem _ held
  · split at held
    · cases held
    · rename_i given
      rw [given]
      exact List.mem_cons_of_mem _ held
  · exact held

end Session

/-- A machine follows one move of another one with one move of its own, or with none. It gets the
entry that an input instruction gets, and keeps the entries behind it. -/
theorem Follows.step {session : Session} {plain : Machine} (follows : Follows session.machine plain)
    (orderly : ∀ entry ∈ session.script, entry.isOrderly = true) (script : List Entry)
    (left : session.script = [] → script = []) :
    ∃ moves after, Session.step^[moves] ⟨plain,
        (if session.machine.status = .asking then session.script.take 1 else []) ++ script⟩ =
          ⟨after, script⟩ ∧
      Follows session.step.machine after := by
  -- A second machine that waits for nobody can stay where it is or advance.
  have alone : ∀ machine, plain.status = .ready →
      Follows machine plain ∨ Follows machine plain.advance →
      ∃ moves after, Session.step^[moves] ⟨plain, script⟩ = ⟨after, script⟩ ∧
        Follows machine after := by
    rintro machine ready (same | moved)
    · exact ⟨0, plain, rfl, same⟩
    · exact ⟨1, plain.advance, by simp [Session.step, ready], moved⟩
  cases follows with
  | ready data first second code =>
    simpa [first, Session.step] using alone _ second (data.advance first second code)
  | stopped data first second code next =>
    -- The entry goes to the console, and the second machine does not get it.
    have heard : ∃ entry, entry.isOrderly = true ∧
        session.step.machine = session.machine.receive entry := by
      cases given : session.script with
      | nil => exact ⟨.endOfInput, rfl, by simp [Session.step, first, Session.handOver, given]⟩
      | cons entry rest =>
        exact ⟨entry, orderly entry (by simp [given]),
          by simp [Session.step, first, Session.handOver, given]⟩
    obtain ⟨entry, proper, result⟩ := heard
    rw [result]
    simpa [first] using alone _ second (data.receiveCommand first second code next proper)
  | asking data first second next plainNext behind =>
    cases given : session.script with
    | nil =>
      -- Both line sources report the end of the input for ever.
      obtain rfl := left given
      have received := data.receiveInput first second next plainNext behind
        .endOfInput rfl
      refine ⟨1, plain.receive .endOfInput, by simp [Session.step, second, Session.handOver], ?_⟩
      simpa [Session.step, first, Session.handOver, given] using received
    | cons entry rest =>
      have received := data.receiveInput first second next plainNext behind
        entry (orderly entry (by simp [given]))
      -- The entry is the first one of the other script, too.
      refine ⟨1, plain.receive entry, by simp [Session.step, first, second, Session.handOver], ?_⟩
      simpa [Session.step, first, Session.handOver, given] using received
  | halted data first second same empty =>
    have still : session.step = session := by simp [Session.step, first]
    exact ⟨0, plain, by simp [first], by rw [still]; exact .halted data first second same empty⟩

/-- A machine follows any number of moves of another one, on a script without the entries for the
console. -/
theorem Follows.run (moves : Nat) :
    ∀ (session : Session) {plain : Machine}, Follows session.machine plain →
      (∀ entry ∈ session.script, entry.isOrderly = true) →
      ∃ plainMoves, Follows (session.run moves).machine
        (Session.run plainMoves ⟨plain, session.inputScript moves⟩).machine := by
  simp only [Session.run_eq_iterate]
  induction moves with
  | zero => exact fun _ _ follows _ => ⟨0, follows⟩
  | succ moves ih =>
    -- The induction is on the moves of the first machine, since the second one may stand still.
    intro session plain follows orderly
    obtain ⟨first, after, reached, next⟩ := follows.step orderly (session.step.inputScript moves)
      fun nothing => Session.inputScript_of_nil moves (Session.script_step_of_nil nothing)
    obtain ⟨more, related⟩ := ih session.step next fun entry held =>
      orderly entry (Session.mem_script_of_step held)
    refine ⟨more + first, ?_⟩
    rw [Session.inputScript_succ, Function.iterate_succ_apply, Function.iterate_add_apply _ more,
      reached]
    exact related

/-- Two runs that are over mean the same: tape and pointer, the bytes taken in and the outcome are
the same. The second one puts out just the bytes of the program, and the first one has made one step
more for each breakpoint. -/
structure SameMeaning (machine plain : Machine) : Prop where
  halted : plain.isHalted = true
  tape : plain.tape = machine.tape
  inputs : plain.told Event.inputs = machine.told Event.inputs
  outcome : SameOutcome machine.error? plain.error?
  output : plain.told Event.sunk = machine.told Event.outputs
  steps : machine.steps = plain.steps + (machine.told Event.breaks).length

/-- A machine that follows a finished one means the same. -/
theorem Follows.sameMeaning {machine plain : Machine} (follows : Follows machine plain)
    (ended : machine.isHalted = true) : SameMeaning machine plain := by
  cases follows with
  | ready data first second code => simp [Machine.isHalted, first] at ended
  | stopped data first second code next => simp [Machine.isHalted, first] at ended
  | asking data first second next plainNext behind => simp [Machine.isHalted, first] at ended
  | halted data first second same empty =>
    exact {
      halted := by simp [Machine.isHalted, second]
      tape := data.tape
      inputs := data.inputs
      outcome := by simpa [Machine.error?, first, second] using same
      output := by simpa [Machine.emitted, empty] using data.output
      steps := data.steps }

/-- The fresh machine of a program without its breakpoints follows the fresh machine of the
program. -/
theorem follows_start {blueprint : Blueprint} {plain : Program}
    (unbroken : blueprint.program.code.Unbroken plain.code) (endless : blueprint.room = none)
    (calm : blueprint.cancellation = .never) :
    Follows blueprint.machine
      { blueprint with program := plain, debugging := false }.machine := by
  have unlimited : (Writer.fresh blueprint.room).Unlimited := ⟨endless, rfl⟩
  exact .ready {
    endless := unlimited
    plainEndless := unlimited
    calm := calm
    plainCalm := calm
    running := rfl
    taken := rfl
    loops := .nil
    tape := rfl
    pending := rfl
    output := rfl
    inputs := rfl
    steps := rfl } rfl rfl unbroken

/-- The debugger does not change what a program means. If a run that is not cancelled and has an
endless sink ends, on a script of lines and ends of the input, then so does the run that starts
without the debugger, without the breakpoints in the source and without the entries for the
console, and both runs mean the same. -/
theorem debugger_transparent {source : Bytes} {blueprint : Blueprint}
    (compiled : compile source = .ok blueprint.program) (endless : blueprint.room = none)
    (calm : blueprint.cancellation = .never) {script : List Entry}
    (orderly : ∀ entry ∈ script, entry.isOrderly = true) {moves : Nat}
    (ended : (Session.run moves ⟨blueprint.machine, script⟩).machine.isHalted = true) :
    ∃ plain, compile (withoutBreakpoints source) = .ok plain ∧
      ∃ plainMoves, SameMeaning (Session.run moves ⟨blueprint.machine, script⟩).machine
        (Session.run plainMoves
          ⟨{ blueprint with program := plain, debugging := false }.machine,
            Session.inputScript moves ⟨blueprint.machine, script⟩⟩).machine := by
  obtain ⟨plain, plainCompiled, unbroken⟩ := compile_withoutBreakpoints compiled
  have start := follows_start unbroken endless calm
  obtain ⟨plainMoves, follows⟩ := Follows.run moves ⟨blueprint.machine, script⟩ start orderly
  exact ⟨plain, plainCompiled, plainMoves, follows.sameMeaning ended⟩

/-- A run that starts in the debugger, steps over a breakpoint, leaves the debugger and reads a line
means the same as the run that only reads that line. -/
theorem debugger_transparent_commands :
    let program : Program := ⟨.op 0 .breakpoint (.op 1 .input (.op 2 .output .done)), 3, 0⟩
    let blueprint : Blueprint :=
      { Blueprint.ofProgram program with tapeLength := 2, debugging := true }
    let script : List Entry :=
      [.line (utf8 "next"), .line (utf8 "exit"), .line (utf8 "x"), .line (utf8 "y")]
    Session.inputScript 7 ⟨blueprint.machine, script⟩ = [.line (utf8 "x"), .line (utf8 "y")] ∧
      ∃ plain, compile (withoutBreakpoints (utf8 "! , .")) = .ok plain ∧
        ∃ moves, SameMeaning (Session.run 7 ⟨blueprint.machine, script⟩).machine
          (Session.run moves ⟨{ blueprint with program := plain, debugging := false }.machine,
            Session.inputScript 7 ⟨blueprint.machine, script⟩⟩).machine := by
  intro program blueprint script
  have compiled : compile (utf8 "! , .") = .ok blueprint.program := rfl
  refine ⟨by decide +kernel, ?_⟩
  exact debugger_transparent compiled rfl rfl (by decide +kernel) (by decide +kernel)

end TapeMachine
