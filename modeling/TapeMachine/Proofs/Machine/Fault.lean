import TapeMachine.Proofs.Machine.Deed
import TapeMachine.Proofs.Machine.Safety

/-! A run that ends with the data pointer off the tape: the error names the instruction that was
started last, and everything else is as this instruction has found it. -/

namespace TapeMachine

/-- The event, if it is the start of an instruction. -/
def Event.execution : Event → List Event
  | exec pos opcode steps pointer cell mode => [exec pos opcode steps pointer cell mode]
  | _ => []

/-- Events that are not about the machine itself execute nothing. -/
theorem Event.execution_of_foreign (event : Event) (foreign : event.isOwn = false) :
    event.execution = [] := by
  cases event <;> first | rfl | cases foreign

/-- Whether a run has ended with the data pointer off the tape. -/
def Status.isFault : Status → Bool
  | halted (some (.pointer ..)) => true
  | _ => false

/-- An operation at a place of a tape moves the data pointer off the tape. -/
inductive Op.Leaves (length place : Nat) : Op → PointerFault → Prop
  /-- There is no cell before the first. -/
  | left (first : place = 0) : Leaves length place .moveLeft .underflow
  /-- There is no cell behind the last. -/
  | right (last : place + 1 = length) : Leaves length place .moveRight .overflow

/-- With the pointer on the tape an operation fails just if it moves the pointer off the tape. -/
theorem Op.act_eq_error_iff {action : Op} {tape : Tape} {fault : PointerFault}
    (inside : tape.pointer < tape.length) :
    action.act tape = .error fault ↔ action.Leaves tape.length tape.pointer fault := by
  constructor
  · intro failed
    cases action with
    -- Each of the two moves is refused by one check.
    | moveRight =>
      simp only [Op.act, Tape.moveRight] at failed
      split at failed
      · cases failed
      · cases failed
        exact .right (by omega)
    | moveLeft =>
      simp only [Op.act, Tape.moveLeft] at failed
      split at failed
      · cases failed
      · cases failed
        exact .left (by omega)
    | _ => cases failed
  · intro leaves
    cases leaves with
    | left first => rw [Op.act, Tape.moveLeft, if_neg (by omega)]
    | right last => rw [Op.act, Tape.moveRight, if_neg (by omega)]

namespace Machine

/-- A move has started no instruction, and so it has not moved the pointer off the tape. -/
structure Unstarted (before after : Machine) : Prop where
  told : after.told Event.execution = before.told Event.execution
  fine : after.status.isFault = false

section

variable {before machine : Machine}

/-- What leaves the place in the program alone executes nothing. -/
theorem Untouched.execution (kept : Untouched before machine) :
    machine.told Event.execution = before.told Event.execution :=
  kept.told Event.execution_of_foreign

/-- A run that ends for another reason. -/
theorem unstarted_finish (kept : Untouched before machine) {error : Option RunError}
    (other : (Status.halted error).isFault = false) : Unstarted before (machine.finish error) := by
  refine ⟨(kept.trans (machine.untouched_finish error)).execution, ?_⟩
  show (Status.halted (if _ then some .flush else error)).isFault = false
  -- At most the last flush gives the run an error of its own.
  split
  · rfl
  · exact other

/-- A stop in the console executes nothing. -/
theorem unstarted_stop (kept : Untouched before machine) (pos : Nat) (opcode : Opcode) :
    Unstarted before (machine.stop pos opcode) := by
  have prompted := kept.trans ((untouched_print (Console.prompt pos machine.tape.pointer opcode)
    machine).trans (untouched_flush _))
  simp only [stop]
  generalize (machine.print (Console.prompt pos machine.tape.pointer opcode)).flush = shown at *
  split
  · exact unstarted_finish prompted rfl
  · exact ⟨prompted.execution, rfl⟩

/-- A question for input executes nothing. -/
theorem unstarted_ask (kept : Untouched before machine) : Unstarted before machine.ask := by
  have flushed := kept.trans machine.untouched_flush
  unfold ask
  dsimp only
  split
  · exact unstarted_finish flushed rfl
  · exact ⟨(flushed.trans (untouched_await _)).execution, rfl⟩

/-- A loop is left, or it begins another pass unless the run has been cancelled. -/
theorem unstarted_test (innermost : ActiveLoop) (outer : List ActiveLoop)
    (ready : machine.status = .ready) : Unstarted machine (machine.test innermost outer) := by
  have running : machine.status.isFault = false := by rw [ready]; rfl
  unfold test
  dsimp only
  split
  · exact ⟨rfl, running⟩
  · split
    -- Whichever way the test ends, no instruction has started.
    · refine ⟨?_, (unstarted_finish (.refl _) rfl).fine⟩
      exact (untouched_finish { machine with cancellation := _ } _).execution
    · exact ⟨rfl, running⟩

/-- An input instruction that has waited is not started again. -/
theorem unstarted_receiveInput (kept : Untouched before machine) (rest : Code) (entry : Entry) :
    Unstarted before (machine.receiveInput rest entry) := by
  have stored (byte : UInt8) (pending : Bytes) :
      Unstarted before ({ machine with pending := pending }.store byte rest) := by
    refine ⟨?_, rfl⟩
    show (machine.record (.input byte)).told _ = _
    rw [told_record, kept.execution]
    exact List.append_nil _
  cases entry with
  | line text =>
    simp only [receiveInput]
    split
    · exact stored newline machine.pending
    · exact stored _ _
    · exact unstarted_ask kept
    · exact stored _ machine.pending
  | ended report =>
    refine ⟨?_, rfl⟩
    show (machine.record (.inputExhausted _)).told _ = _
    rw [told_record, kept.execution]
    exact List.append_nil _
  | failed reason => exact unstarted_finish kept rfl
  | cancelled =>
    refine ⟨?_, (unstarted_finish (.refl _) rfl).fine⟩
    exact (untouched_finish machine.cancel _).execution.trans kept.execution

end

section

variable {machine after : Machine}

/-- An instruction tells of its start with the state that it finds, and of no other start. -/
theorem Executes.execution (executes : machine.Executes after) :
    ∃ pos opcode, machine.next? = some (pos, opcode) ∧
      after.told Event.execution = machine.told Event.execution ++
        [.exec pos opcode (machine.steps + 1) machine.tape.pointer machine.tape.cell
          machine.mode] := by
  have begun (pos : Nat) (opcode : Opcode) := machine.told_begun pos opcode Event.execution
  have quiet {pos : Nat} {opcode : Opcode} {other : Machine}
      (kept : Untouched (machine.begin pos opcode) other) := kept.execution.trans (begun pos opcode)
  have noted (pos : Nat) (opcode : Opcode) {event : Event} (silent : event.execution = []) :
      ((machine.begin pos opcode).record event).told Event.execution =
        machine.told Event.execution ++ [.exec pos opcode (machine.steps + 1)
          machine.tape.pointer machine.tape.cell machine.mode] := by
    rw [told_record, silent, List.append_nil, begun]
    rfl
  cases executes with
  | enters code => exact ⟨_, _, by rw [next?, code], begun _ _⟩
  | acts code onTape act => exact ⟨_, _, by rw [next?, code], begun _ _⟩
  | faults code onTape act => exact ⟨_, _, by rw [next?, code], quiet (untouched_halt _ _)⟩
  | writes code => exact ⟨_, _, by rw [next?, code], noted _ _ rfl⟩
  | unwritten code => exact ⟨_, _, by rw [next?, code], quiet (untouched_halt _ _)⟩
  | takes code held => exact ⟨_, _, by rw [next?, code], noted _ _ rfl⟩
  | asks code spent => exact ⟨_, _, by rw [next?, code], quiet (untouched_await _)⟩
  | unasked code spent => exact ⟨_, _, by rw [next?, code], quiet (untouched_halt _ _)⟩
  | breaks code =>
    exact ⟨_, _, by rw [next?, code], (untouched_setMode _ _).execution.trans (noted _ _ rfl)⟩

/-- Only an operation that moves the pointer off the tape fails with such an error, and it changes
nothing. -/
theorem Executes.faulted (executes : machine.Executes after) {pos : Nat} {opcode : Opcode}
    {place : Nat} {fault : PointerFault}
    (ended : after.status = .halted (some (.pointer pos opcode place fault))) :
    ∃ action, machine.next? = some (pos, opcode) ∧ opcode = .basic action ∧
      place = machine.tape.pointer ∧ action.act machine.tape = .error fault ∧
      Untouched (machine.begin pos opcode) after ∧ after.mode = machine.mode := by
  cases executes with
  | faults code onTape act =>
    -- No other instruction ends the run with such an error.
    cases ended
    exact ⟨_, by rw [next?, code], rfl, rfl, act, untouched_halt _ _, rfl⟩
  | _ => cases ended

/-- An operation that moves the pointer off the tape ends the run. -/
theorem status_execute_of_error {pos : Nat} {action : Op} {fault : PointerFault}
    (next : machine.next? = some (pos, .basic action))
    (failed : action.act machine.tape = .error fault) :
    machine.execute.status =
      .halted (some (.pointer pos (.basic action) machine.tape.pointer fault)) := by
  cases code : machine.code with
  | done => simp [next?, code] at next
  | loop => simp [next?, code] at next
  | op place operation rest =>
    simp only [next?, code, Option.some.injEq, Prod.mk.injEq, Opcode.basic.injEq] at next
    obtain ⟨rfl, rfl⟩ := next
    -- Only the two moves of the pointer can fail.
    have moves : machine.execute.status = ((machine.begin place (.basic operation)).move place
        operation (operation.act machine.tape) rest).status := by
      simp only [execute, code]
      cases operation with
      | moveRight => rfl
      | moveLeft => rfl
      | _ => cases failed
    rw [moves, failed]
    rfl

/-- Executing an instruction tells of its start. -/
theorem execution_execute (next : machine.code ≠ .done) :
    ∃ pos opcode, machine.next? = some (pos, opcode) ∧
      machine.execute.told Event.execution = machine.told Event.execution ++
        [.exec pos opcode (machine.steps + 1) machine.tape.pointer machine.tape.cell
          machine.mode] := by
  obtain ⟨pos, opcode, ahead, told⟩ := (machine.executes_execute next).execution
  rw [told_bare _ fun _ => rfl, told_bare _ fun _ => rfl] at told
  exact ⟨pos, opcode, ahead, told⟩

end

/-- How a run ends that has moved the data pointer off the tape: the last instruction that has been
started is the one that the error names, and all is as this instruction has found it. -/
structure FellOff (started after : Machine) (pos : Nat) (opcode : Opcode) (place : Nat)
    (fault : PointerFault) : Prop where
  last : after.told Event.execution = started.told Event.execution ++
    [.exec pos opcode after.steps place after.tape.cell after.mode]
  here : place = after.tape.pointer
  tape : after.tape = started.tape
  mode : after.mode = started.mode
  pending : after.pending = started.pending
  underflow : fault = .underflow ↔ opcode = .basic .moveLeft
  first : fault = .underflow → place = 0
  overflow : fault = .overflow ↔ opcode = .basic .moveRight
  final : fault = .overflow → place + 1 = after.tape.length

/-- An instruction that moves the pointer off the tape leaves everything as it is. -/
theorem fellOff_execute {machine : Machine} (next : machine.code ≠ .done)
    (inside : machine.tape.pointer < machine.tape.length) {pos : Nat} {opcode : Opcode}
    {place : Nat} {fault : PointerFault}
    (ended : machine.execute.status = .halted (some (.pointer pos opcode place fault))) :
    machine.next? = some (pos, opcode) ∧
      machine.FellOff machine.execute pos opcode place fault := by
  obtain ⟨action, ahead, rfl, rfl, failed, kept, mode⟩ :=
    (machine.executes_execute next).faulted ended
  obtain ⟨_, _, same, told⟩ := machine.execution_execute next
  -- The instruction that has started is the one that comes next.
  rw [show machine.next? = some (pos, .basic action) from ahead] at same
  cases same
  -- Beyond the count of instructions nothing has changed.
  have tape : machine.execute.tape = machine.tape := kept.tape
  have steps : machine.execute.steps = machine.steps + 1 := kept.steps
  have mode : machine.execute.mode = machine.mode := mode
  have leaves := (Op.act_eq_error_iff inside).mp failed
  refine ⟨ahead, ?_, ?_, tape, mode, kept.pending, ?_, ?_, ?_, ?_⟩
  · rw [told, steps, tape, mode]
    rfl
  · rw [tape]
    rfl
  · cases leaves <;> simp
  · cases leaves with
    | left first => exact fun _ => first
    | right last => exact nofun
  · cases leaves <;> simp
  · cases leaves with
    | left first => exact nofun
    | right last =>
      intro _
      rw [tape]
      exact last

end Machine

namespace Session

/-- What a move of a session under way does about instructions. -/
inductive Starts (session : Session) : Prop
  /-- It starts one, perhaps behind something that the console has done. -/
  | one (started : Machine) (kept : session.machine.Untouched started)
      (next : started.code ≠ .done) (executes : session.step.machine = started.execute)
  /-- It starts none. -/
  | none (unstarted : session.machine.Unstarted session.step.machine)

/-- A move starts one instruction at most, and only the start of an instruction can move the pointer
off the tape. -/
theorem starts_step {session : Session} (attentive : session.machine.Attentive)
    (running : session.machine.isHalted = false) : session.Starts := by
  cases status : session.machine.status with
  | ready =>
    have move : session.step.machine = session.machine.advance := by simp only [step, status]
    by_cases next : session.machine.code = .done
    · refine .none ?_
      rw [move]
      simp only [Machine.advance, next]
      -- At the end of a sequence the run ends or the innermost loop is tested.
      split
      · exact Machine.unstarted_finish (.refl _) rfl
      · exact Machine.unstarted_test _ _ status
    · obtain ⟨pos, opcode, advances⟩ := Machine.advance_of_next next
      rw [advances] at move
      split at move
      · refine .none ?_
        rw [move]
        exact Machine.unstarted_stop (.refl _) pos opcode
      · exact .one session.machine (.refl _) next move
  | stopped =>
    have next := attentive.stopped status
    obtain ⟨pos, opcode, receives⟩ := Machine.receive_of_stopped status next
      (session.script.headD .endOfInput)
    have move : session.step.machine =
        session.machine.receive (session.script.headD .endOfInput) := by
      simp only [step, status, handOver_eq]
    rw [receives] at move
    have noted := session.machine.untouched_recordEntry (session.script.headD .endOfInput)
    generalize session.script.headD .endOfInput = entry at move noted
    -- The console stops again, goes on with the instruction, or cannot read a command.
    rcases (session.machine.recordEntry entry).receiveCommand_cases pos opcode entry with
      ⟨heard, kept, stops | executes⟩ | ⟨reason, -, failed⟩ | ⟨-, cancelled⟩
    · refine .none ?_
      rw [move, stops]
      exact Machine.unstarted_stop (noted.trans kept) pos opcode
    · refine .one heard (noted.trans kept) ?_ (move.trans executes)
      rw [(noted.trans kept).code]
      exact next
    · refine .none ?_
      rw [move, failed]
      exact Machine.unstarted_finish noted rfl
    · refine .none ?_
      rw [move, cancelled]
      refine ⟨?_, (Machine.unstarted_finish (.refl _) rfl).fine⟩
      exact (Machine.untouched_finish (Machine.cancel _) _).execution.trans noted.execution
  | asking =>
    obtain ⟨-, pos, rest, code⟩ := attentive.asking status
    -- An input instruction that has waited was started before.
    have noted := session.machine.untouched_recordEntry (session.script.headD .endOfInput)
    refine .none ?_
    simp only [step, status, handOver_eq, Machine.receive, code]
    exact Machine.unstarted_receiveInput noted rest _
  | halted error => simp [Machine.isHalted, status] at running

variable {first session : Session}

/-- A run that is over has made its last move. -/
theorem Reaches.exists_last_move (reached : first.Reaches session)
    (fresh : first.machine.isHalted = false) (halted : session.machine.isHalted = true) :
    ∃ before, first.Reaches before ∧ before.machine.isHalted = false ∧ before.step = session := by
  induction reached with
  | refl =>
    -- The last move is the one before which the run was still going on.
    rw [fresh] at halted
    cases halted
  | @step session reached ih =>
    cases earlier : session.machine.isHalted with
    | false => exact ⟨session, reached, earlier, rfl⟩
    | true =>
      rw [session.step_of_halted earlier]
      exact ih earlier
  | rerun => cases halted

/-- What moves lead to is reached. -/
theorem Reaches.iterate (reached : first.Reaches session) (moves : Nat) :
    first.Reaches (Session.step^[moves] session) := by
  induction moves with
  | zero => exact reached
  | succ moves ih =>
    rw [Function.iterate_succ_apply']
    exact ih.step

/-- After an instruction that moves the pointer off the tape no further one is started, and the run
ends with the error that names it. -/
theorem executed_iterate {blueprint : Blueprint} {script : List Entry}
    (positive : 1 ≤ blueprint.tapeLength)
    (reached : Reaches ⟨blueprint.machine, script⟩ session) (moves : Nat) :
    ∃ later, (step^[moves] session).machine.told Event.execution =
        session.machine.told Event.execution ++ later ∧
      ∀ pos action steps place cell mode fault,
        .exec pos (.basic action) steps place cell mode ∈ later →
        action.Leaves blueprint.tapeLength.toNat place fault →
        (step^[moves] session).machine.status =
            .halted (some (.pointer pos (.basic action) place fault)) ∧
          later.getLast? = some (.exec pos (.basic action) steps place cell mode) := by
  induction moves with
  | zero => exact ⟨[], (List.append_nil _).symm, nofun⟩
  | succ moves ih =>
    obtain ⟨later, told, ends⟩ := ih
    have onward : Reaches ⟨blueprint.machine, script⟩ (step^[moves] session) :=
      reached.iterate moves
    obtain ⟨inside, length⟩ := onward.tape positive
    rw [Function.iterate_succ_apply']
    generalize step^[moves] session = before at *
    cases halted : before.machine.isHalted with
    | true =>
      rw [before.step_of_halted halted]
      exact ⟨later, told, ends⟩
    | false =>
      -- The run goes on, so no instruction before has moved the pointer off the tape.
      have fine {pos : Nat} {action : Op} {steps place : Nat} {cell : UInt8} {mode : Mode}
          {fault : PointerFault} (member : .exec pos (.basic action) steps place cell mode ∈ later)
          (leaves : action.Leaves blueprint.tapeLength.toNat place fault) : False := by
        have faulted := (ends _ _ _ _ _ _ _ member leaves).1
        simp [Machine.isHalted, faulted] at halted
      cases starts_step onward.attentive halted with
      | none unstarted =>
        refine ⟨later, unstarted.told.trans told, ?_⟩
        intro pos action steps place cell mode fault member leaves
        exact (fine member leaves).elim
      | one started kept next executes =>
        obtain ⟨pos, opcode, ahead, begun⟩ := started.execution_execute next
        -- The new start is the last one, and it is the only one that can be about such a move.
        rw [kept.execution, told, List.append_assoc] at begun
        rw [executes]
        refine ⟨_, begun, ?_⟩
        intro place action steps pointer cell mode fault member leaves
        rcases List.mem_append.mp member with member | member
        · exact (fine member leaves).elim
        · cases List.mem_singleton.mp member
          refine ⟨Machine.status_execute_of_error ahead ?_, List.getLast?_concat⟩
          rw [← length, ← kept.tape] at leaves
          exact (Op.act_eq_error_iff (by rwa [kept.tape])).mpr leaves

end Session

/-- Errors about the data pointer are exact and atomic. If a run ends with one, the error names the
instruction that was started last, by its position in the listing and by its opcode, and the pointer
that the run ends with; tape, mode and pending input are as that instruction has found them; and the
error is an underflow at the first cell just for a move to the left, an overflow at the last cell
just for a move to the right. Conversely a run in which such a move starts at the end of the tape
ends with the error that names it, and it starts no further instruction. -/
theorem pointer_error_exact {source : Bytes} {blueprint : Blueprint}
    (compiled : compile source = .ok blueprint.program) (positive : 1 ≤ blueprint.tapeLength)
    {script : List Entry} {session : Session}
    (reached : Session.Reaches ⟨blueprint.machine, script⟩ session) :
    (∀ pos opcode place fault,
      session.machine.status = .halted (some (.pointer pos opcode place fault)) →
      blueprint.program.listing[pos]? = some opcode.symbol ∧
      ∃ before started, Session.Reaches ⟨blueprint.machine, script⟩ before ∧
        before.machine.Untouched started ∧ before.step = session ∧
        session.machine = started.execute ∧ started.next? = some (pos, opcode) ∧
        started.FellOff session.machine pos opcode place fault) ∧
    ∀ moves later,
      (Session.run moves session).machine.told Event.execution =
        session.machine.told Event.execution ++ later →
      ∀ pos action steps place cell mode fault,
        .exec pos (.basic action) steps place cell mode ∈ later →
        action.Leaves blueprint.tapeLength.toNat place fault →
        (Session.run moves session).machine.status =
            .halted (some (.pointer pos (.basic action) place fault)) ∧
          later.getLast? = some (.exec pos (.basic action) steps place cell mode) := by
  constructor
  · intro pos opcode place fault ended
    have halted : session.machine.isHalted = true := by simp [Machine.isHalted, ended]
    obtain ⟨before, early, running, rfl⟩ := reached.exists_last_move rfl halted
    -- The last move has executed the instruction that has failed.
    obtain ⟨inside, -⟩ := early.tape positive
    obtain ⟨here, stands⟩ := early.standsAt compiled
    cases Session.starts_step early.attentive running with
    | none unstarted =>
      have fine := unstarted.fine
      rw [ended] at fine
      cases fine
    | one started kept next executes =>
      rw [executes] at ended
      obtain ⟨ahead, fell⟩ :=
        Machine.fellOff_execute next (by rw [kept.tape]; exact inside) ended
      refine ⟨?_, before, started, early, kept, rfl, executes, ahead, by rw [executes]; exact fell⟩
      -- The instruction stands in the listing at the place that it knows.
      have listing : before.machine.listing = blueprint.machine.listing :=
        congrArg (fun same => same.2.1) early.fixed
      have standing : before.machine.next? = some (pos, opcode) := by
        rw [Machine.next?, ← kept.code]
        exact ahead
      have symbol := stands.next standing
      rw [listing] at symbol
      simpa [Blueprint.machine] using symbol
  · intro moves later told
    -- The events behind the reached session are those of the moves from there.
    rw [Session.run_eq_iterate] at told ⊢
    obtain ⟨others, same, ends⟩ := Session.executed_iterate positive reached moves
    rw [List.append_cancel_left (told.symm.trans same)]
    exact ends

/-- A loop that runs off the end of a tape of two cells in its second pass: the move to the right
that fails is the fifth and last instruction, and it leaves the pointer on the second cell. -/
theorem pointer_error_exact_loop :
    let program : Program :=
      ⟨.op 0 .increment (.loop 1 (.op 2 .moveRight (.op 3 .increment .done)) .done), 5, 1⟩
    let blueprint : Blueprint := { Blueprint.ofProgram program with tapeLength := 2 }
    let start : Session := ⟨blueprint.machine, []⟩
    let ended := Session.run 8 start
    let last : Event := .exec 2 (.basic .moveRight) 5 1 1 .running
    ended.machine.status = .halted (some (.pointer 2 (.basic .moveRight) 1 .overflow)) ∧
      program.listing[2]? = some (ascii '>') ∧
      (∃ before started, Session.Reaches start before ∧ before.machine.Untouched started ∧
        started.FellOff ended.machine 2 (.basic .moveRight) 1 .overflow) ∧
      (ended.machine.told Event.execution).getLast? = some last := by
  intro program blueprint start ended last
  have compiled : compile (utf8 "+[>+]") = .ok blueprint.program := rfl
  have reached : start.Reaches ended := by
    rw [show ended = Session.step^[8] start from Session.run_eq_iterate 8 start]
    exact Session.Reaches.refl.iterate 8
  have status : ended.machine.status =
      .halted (some (.pointer 2 (.basic .moveRight) 1 .overflow)) := by decide +kernel
  have member : last ∈ ended.machine.told Event.execution := by decide +kernel
  obtain ⟨symbol, before, started, early, kept, -, -, -, fell⟩ :=
    (pointer_error_exact compiled (by decide) reached).1 2 (.basic .moveRight) 1 .overflow status
  have told : (Session.run 8 start).machine.told Event.execution =
      start.machine.told Event.execution ++ ended.machine.told Event.execution := by
    rw [show start.machine.told Event.execution = [] from rfl, List.nil_append]
  have ends := (pointer_error_exact compiled (by decide) .refl).2 8 _ told
    2 .moveRight 5 1 1 .running .overflow member (.right rfl)
  exact ⟨status, symbol, ⟨before, started, early, kept, fell⟩, ends.2⟩

end TapeMachine
