import TapeMachine.Proofs.Machine.Passage

/-! Machines that differ in nothing but their programs: what is the same instruction for both, both
execute alike. -/

namespace TapeMachine

/-- Whether an event is about more than the walk through the program, which may be different in
another program. -/
def Event.isOutward : Event → Bool
  | exec .. | checkpoint .. => false
  | _ => true

namespace Machine

/-- The machine without its program: the data that the program works on, and what can be told from
outside. -/
def essence (machine : Machine) : Machine :=
  { machine with
    program := .empty
    listing := #[]
    code := .done
    loops := []
    steps := 0
    journal := machine.journal.filter Event.isOutward }

/-- Two machines that differ in nothing but their programs and the walk through them. -/
def Alike (one other : Machine) : Prop := one.essence = other.essence

/-- A view that does not look at the walk through the program is kept by the essence. -/
theorem told_essence {α : Type} (machine : Machine) {view : Event → List α}
    (silent : ∀ event, event.isOutward = false → view event = []) :
    machine.essence.told view = machine.told view := by
  rw [told, told, events, events, essence, ← List.filter_reverse, flatMap_filter_of_silent silent]

/-- An outward event is told by the essence, too. -/
theorem essence_record (machine : Machine) {event : Event} (outward : event.isOutward = true) :
    (machine.record event).essence = machine.essence.record event := by
  simp [record, essence, outward]

/-- An event of the walk through the program is no part of the essence. -/
theorem essence_record_inward (machine : Machine) {event : Event}
    (inward : event.isOutward = false) : (machine.record event).essence = machine.essence := by
  simp [record, essence, inward]

/-- What the sink takes is told by the essence, too. -/
theorem essence_deliver (machine : Machine) (written : Writer × Option Delivery) :
    (machine.deliver written).essence = machine.essence.deliver written := by
  rcases written with ⟨writer, _ | delivery⟩
  · rfl
  -- What the sink has taken can be told from outside.
  · have outward : (Event.delivered delivery).isOutward = true := rfl
    simp only [deliver, essence, List.filter_cons_of_pos outward]

/-- The start of an instruction is no part of the essence. -/
theorem essence_begin {machine : Machine} (calm : machine.cancellation = .never) (pos : Nat)
    (opcode : Opcode) : (machine.begin pos opcode).essence = machine.essence := by
  -- The event and the step are left out, and no count of steps cancels the run.
  have still : machine.cancellation.start (machine.steps + 1) = machine.cancellation := by
    rw [calm]
    rfl
  simp [begin, essence, Event.isOutward, still]

/-- A run that is over has ended with an error or without one. -/
theorem exists_status_of_halted {machine : Machine} (halted : machine.isHalted = true) :
    ∃ error, machine.status = .halted error := by
  cases status : machine.status with
  | halted error => exact ⟨error, rfl⟩
  | _ => simp [isHalted, status] at halted

/-- Outside the debugger a loop is entered at once. -/
theorem advance_of_loop {machine : Machine} (running : machine.mode = .running) {pos : Nat}
    {body rest : Code} (code : machine.code = .loop pos body rest) :
    machine.advance = { machine.begin pos .loop with
      code := .done, loops := ⟨body, rest⟩ :: machine.loops, status := .ready } := by
  have outside : ¬ machine.mode = .debugging := by simp [running]
  simp only [advance, execute, code, outside, if_false]

namespace Alike

variable {one other : Machine}

/-- What does not depend on the program is the same for both. -/
theorem same {α : Type} (alike : Alike one other) (field : Machine → α)
    (blind : ∀ machine, field machine.essence = field machine) : field one = field other := by
  rw [← blind one, ← blind other, alike]

/-- Both machines may do what does not look at the program. -/
theorem changed (alike : Alike one other) (change : Machine → Machine) {after otherAfter : Machine}
    (first : after.essence = change one.essence)
    (second : otherAfter.essence = change other.essence) : Alike after otherAfter := by
  rw [Alike, first, second, alike]

section

variable (alike : Alike one other)
include alike

/-- Both machines run or both are debugged. -/
theorem mode : one.mode = other.mode := alike.same Machine.mode fun _ => rfl

/-- Both machines have the same tape. -/
theorem tape : one.tape = other.tape := alike.same Machine.tape fun _ => rfl

/-- The same bytes of the current line are left. -/
theorem pending : one.pending = other.pending := alike.same Machine.pending fun _ => rfl

/-- The same output waits in front of the same sink. -/
theorem writer : one.writer = other.writer := alike.same Machine.writer fun _ => rfl

/-- Both machines wait for the same thing. -/
theorem status : one.status = other.status := alike.same Machine.status fun _ => rfl

/-- Both machines take their input in the same way. -/
theorem inputMode : one.inputMode = other.inputMode := alike.same Machine.inputMode fun _ => rfl

/-- Both machines prompt or neither does. -/
theorem prompting : one.prompting = other.prompting := alike.same Machine.prompting fun _ => rfl

/-- The sinks have taken the same bytes. -/
theorem sunk : one.told Event.sunk = other.told Event.sunk := by
  have silent (event : Event) (inward : event.isOutward = false) : event.sunk = [] := by
    cases event <;> first | rfl | cases inward
  rw [← told_essence _ silent, alike, told_essence _ silent]

/-- But for the walk through the programs the same has happened. -/
theorem outward :
    one.events.filter Event.isOutward = other.events.filter Event.isOutward := by
  -- The journal holds the events from the last to the first.
  have journal := alike.same (fun machine => machine.journal.filter Event.isOutward)
    fun machine => by simp [essence]
  rw [events, events, List.filter_reverse, List.filter_reverse, journal]

/-- Both contexts are cancelled at the same check. -/
theorem cancellation : one.cancellation = other.cancellation :=
  alike.same Machine.cancellation fun _ => rfl

/-- Both machines may tell of the same outward event. -/
theorem record {event : Event} (outward : event.isOutward = true) :
    Alike (one.record event) (other.record event) :=
  alike.changed (Machine.record · event) (one.essence_record outward)
    (other.essence_record outward)

/-- Both sinks may take the same bytes. -/
theorem deliver (written : Writer × Option Delivery) :
    Alike (one.deliver written) (other.deliver written) :=
  alike.changed (Machine.deliver · written) (one.essence_deliver written)
    (other.essence_deliver written)

/-- Both machines may flush what they have put out. -/
theorem flush : Alike one.flush other.flush := by
  rw [Machine.flush, alike.writer]
  exact alike.deliver _

/-- Both machines may put out the same byte. -/
theorem put (byte : UInt8) : Alike (one.put byte) (other.put byte) := by
  rw [Machine.put, alike.writer]
  exact alike.deliver _

/-- Both machines may go over to the same status. -/
theorem withStatus (status : Status) :
    Alike { one with status := status } { other with status := status } :=
  alike.changed (fun machine => { machine with status := status }) rfl rfl

/-- Both machines may take over the same tape. -/
theorem withTape (tape : Tape) : Alike { one with tape := tape } { other with tape := tape } :=
  alike.changed (fun machine => { machine with tape := tape }) rfl rfl

/-- Both machines may keep the same bytes for later. -/
theorem withPending (pending : Bytes) :
    Alike { one with pending := pending } { other with pending := pending } :=
  alike.changed (fun machine => { machine with pending := pending }) rfl rfl

/-- Each machine may go on with code of its own. -/
theorem proceed (rest otherRest : Code) : Alike (one.proceed rest) (other.proceed otherRest) :=
  alike.changed (Machine.proceed · .done) rfl rfl

/-- Each machine may be put anywhere in its own program. -/
theorem placed (code otherCode : Code) (loops otherLoops : List ActiveLoop) :
    Alike { one with code := code, loops := loops }
      { other with code := otherCode, loops := otherLoops } :=
  alike.changed id rfl rfl

/-- Both machines may end their runs with the same error. -/
theorem finish (error : Option RunError) : Alike (one.finish error) (other.finish error) := by
  -- The last state tells of the steps, so it is left out.
  have flushed := alike.flush
  have failed : one.flush.writer.failed = other.flush.writer.failed := by rw [flushed.writer]
  unfold Machine.finish
  dsimp only
  -- Both sinks have failed or neither has, so the errors are the same.
  rw [Alike, essence_record_inward _ rfl, essence_record_inward _ rfl, failed]
  exact flushed.withStatus _

/-- Runs that end with different errors have nothing else apart. -/
theorem fail (error otherError : Option RunError) :
    Alike { one.finish error with status := .ready }
      { other.finish otherError with status := .ready } :=
  alike.flush.changed (fun machine => { machine with status := .ready }) rfl rfl

/-- Both machines may ask for a line. -/
theorem ask : Alike one.ask other.ask := by
  have flushed := alike.flush
  have failed : one.flush.writer.failed = other.flush.writer.failed := by rw [flushed.writer]
  unfold Machine.ask
  dsimp only
  rw [failed, flushed.prompting]
  split
  -- A sink that fails ends both runs before the question.
  · exact flushed.finish _
  · split
    · exact (flushed.record rfl).withStatus .asking
    · exact flushed.withStatus .asking

end

end Alike

/-- Two machines that differ in nothing but their programs, outside the debugger and with nobody to
cancel them. -/
structure Linked (one other : Machine) : Prop where
  alike : Alike one other
  running : one.mode = .running
  calm : one.cancellation = .never

/-- How two machines go on that do the same operation, each of them with code of its own behind. -/
inductive Joint (one other : Machine) (rest otherRest : Code) (after otherAfter : Machine) : Prop
  /-- Both go on behind the operation. -/
  | goesOn (linked : Linked after otherAfter) (ready : after.status = .ready)
      (code : after.code = rest) (otherCode : otherAfter.code = otherRest)
      (loops : after.loops = one.loops) (otherLoops : otherAfter.loops = other.loops)
      (near : one.tape.Near after.tape)
  /-- Both wait for a line of input. -/
  | waits (linked : Linked after otherAfter) (asking : after.status = .asking) {pos place : Nat}
      (code : after.code = .op pos .input rest)
      (otherCode : otherAfter.code = .op place .input otherRest)
      (loops : after.loops = one.loops) (otherLoops : otherAfter.loops = other.loops)
      (tape : after.tape = one.tape)
  /-- Both runs are over. -/
  | ended (alike : Alike after otherAfter) (halted : after.isHalted = true)
  /-- Both data pointers have been about to leave the tape. -/
  | faults (alike : Alike { after with status := .ready } { otherAfter with status := .ready })
      {pos place : Nat} {opcode : Opcode} {pointer : Nat} {fault : PointerFault}
      (status : after.status = .halted (some (.pointer pos opcode pointer fault)))
      (otherStatus : otherAfter.status = .halted (some (.pointer place opcode pointer fault)))

namespace Linked

variable {one other : Machine} {rest otherRest : Code}

section

variable (linked : Linked one other)
include linked

/-- The other machine is not debugged either. -/
theorem otherRunning : other.mode = .running := linked.alike.mode ▸ linked.running

/-- Nobody cancels the other machine either. -/
theorem otherCalm : other.cancellation = .never := linked.alike.cancellation ▸ linked.calm

/-- Neither machine stops in the console. -/
theorem outside : ¬ one.mode = .debugging ∧ ¬ other.mode = .debugging := by
  simp [linked.running, linked.otherRunning]

/-- Starting an instruction is no difference. -/
theorem begin (pos place : Nat) (opcode : Opcode) :
    Linked (one.begin pos opcode) (other.begin place opcode) where
  alike := by
    rw [Alike, essence_begin linked.calm, essence_begin linked.otherCalm]
    exact linked.alike
  running := linked.running
  calm := cancellation_begin linked.calm pos opcode

/-- Linked machines may take over the same tape. -/
theorem withTape (tape : Tape) : Linked { one with tape := tape } { other with tape := tape } :=
  { linked with alike := linked.alike.withTape tape }

/-- Linked machines may keep the same bytes for later. -/
theorem withPending (pending : Bytes) :
    Linked { one with pending := pending } { other with pending := pending } :=
  { linked with alike := linked.alike.withPending pending }

/-- Each of two linked machines may be put anywhere in its own program. -/
theorem placed (code otherCode : Code) (loops otherLoops : List ActiveLoop) :
    Linked { one with code := code, loops := loops }
      { other with code := otherCode, loops := otherLoops } :=
  { linked with alike := linked.alike.placed code otherCode loops otherLoops }

/-- Both machines have entered loops of their own. -/
theorem entered (pos place : Nat) (loops otherLoops : List ActiveLoop) :
    Linked { one.begin pos .loop with code := .done, loops := loops, status := .ready }
      { other.begin place .loop with code := .done, loops := otherLoops, status := .ready } := by
  have begun := linked.begin pos place .loop
  exact ⟨(begun.alike.withStatus .ready).placed _ _ _ _, begun.running, begun.calm⟩

/-- Linked machines may tell of the same outward event. -/
theorem record {event : Event} (outward : event.isOutward = true) :
    Linked (one.record event) (other.record event) :=
  { linked with alike := linked.alike.record outward }

/-- Linked machines may be handed the same entry. -/
theorem recordEntry (entry : Entry) : Linked (one.recordEntry entry) (other.recordEntry entry) := by
  cases entry <;> exact linked.record rfl

end

section

variable {before otherBefore : Machine} (linked : Linked one other)
  (loops : one.loops = before.loops) (otherLoops : other.loops = otherBefore.loops)
include linked loops otherLoops

/-- Both machines go on behind what they have done to the tape. -/
theorem proceed (near : before.tape.Near one.tape) :
    Joint before otherBefore rest otherRest (one.proceed rest) (other.proceed otherRest) :=
  .goesOn { linked with alike := linked.alike.proceed rest otherRest } rfl rfl rfl loops otherLoops
    near

/-- Both machines store the same byte of input. -/
theorem store (byte : UInt8) (tape : one.tape = before.tape) :
    Joint before otherBefore rest otherRest (one.store byte rest) (other.store byte otherRest) := by
  have written := linked.withTape (one.tape.write byte)
  unfold Machine.store
  -- The event of the byte tells nothing of the program.
  rw [← linked.alike.tape]
  refine (written.record rfl).proceed loops otherLoops ?_
  rw [← tape]
  exact Tape.near_write one.tape byte

/-- Only a sink that fails keeps the machines from waiting, and then both runs are over. -/
theorem ask {pos place : Nat} (code : one.code = .op pos .input rest)
    (otherCode : other.code = .op place .input otherRest) (tape : one.tape = before.tape) :
    Joint before otherBefore rest otherRest one.ask other.ask := by
  have asked := linked.alike.ask
  have kept := one.untouched_ask
  have otherKept := other.untouched_ask
  by_cases failed : one.flush.writer.failed = true
  -- The flush in front of the question decides.
  · refine .ended asked ?_
    simp only [Machine.ask, failed, if_true]
    rfl
  · refine .waits ⟨asked, ?_, ?_⟩ (by simp [Machine.ask, failed]) (kept.code.trans code)
      (otherKept.code.trans otherCode) (kept.loops.trans loops) (otherKept.loops.trans otherLoops)
      (kept.tape.trans tape)
    · rw [one.mode_ask]
      exact linked.running
    · rw [kept.cancellation]
      exact linked.calm

/-- Both pointers move, or neither can. -/
theorem move (pos place : Nat) (action : Op) {moved : Except PointerFault Tape}
    (near : ∀ tape, moved = .ok tape → before.tape.Near tape) :
    Joint before otherBefore rest otherRest (one.move pos action moved rest)
      (other.move place action moved otherRest) := by
  cases moved with
  -- A fault names the instruction, so the two errors differ in the position and nothing else.
  | ok tape => exact (linked.withTape tape).proceed loops otherLoops (near tape rfl)
  | error fault =>
    have pointer : other.tape.pointer = one.tape.pointer := by rw [linked.alike.tape]
    have status : (other.move place action (.error fault) otherRest).status =
        .halted (some (.pointer place (.basic action) one.tape.pointer fault)) := by
      rw [← pointer]
      rfl
    exact .faults (linked.alike.fail _ _) rfl status

/-- Both machines put out the same cell. -/
theorem emit (tape : one.tape = before.tape) :
    Joint before otherBefore rest otherRest (one.emit rest) (other.emit otherRest) := by
  -- The writers are the same, so the byte is taken by both sinks or by none.
  have put := linked.alike.put one.tape.cell
  have mode : (one.put one.tape.cell).mode = .running := linked.running
  have otherMode : (other.put one.tape.cell).mode = .running := put.mode ▸ mode
  have failed : (one.put one.tape.cell).writer.failed =
      (other.put one.tape.cell).writer.failed := by rw [put.writer]
  unfold Machine.emit
  rw [← linked.alike.tape]
  -- Outside the debugger the byte is not flushed at once.
  simp only [mode, otherMode, reduceCtorEq, decide_false, Bool.and_false, Bool.false_eq_true,
    if_false, failed]
  split
  · exact .ended (put.finish _) rfl
  · have noted : Linked ((one.put one.tape.cell).record (.output one.tape.cell))
        ((other.put one.tape.cell).record (.output one.tape.cell)) :=
      { linked with alike := put.record rfl }
    refine noted.proceed loops otherLoops ?_
    rw [← tape]
    exact .refl one.tape

/-- An operation of both programs is done by both machines alike. -/
theorem operate {pos place : Nat} {action : Op} (proper : action ≠ .breakpoint)
    (code : one.code = .op pos action rest) (otherCode : other.code = .op place action otherRest)
    (tape : one.tape = before.tape) :
    Joint before otherBefore rest otherRest (one.operate pos action rest)
      (other.operate place action otherRest) := by
  -- Both operations find the same tape and the same pending input.
  have same := linked.alike.tape
  have written (value : UInt8) : before.tape.Near (one.tape.write value) := by
    rw [← tape]
    exact Tape.near_write one.tape value
  cases action with
  | moveRight =>
    simp only [Machine.operate]
    rw [← same, tape]
    exact linked.move loops otherLoops pos place _ fun _ found => Tape.near_moveRight found
  | moveLeft =>
    simp only [Machine.operate]
    rw [← same, tape]
    exact linked.move loops otherLoops pos place _ fun _ found => Tape.near_moveLeft found
  | increment =>
    simp only [Machine.operate]
    rw [← same]
    exact (linked.withTape _).proceed loops otherLoops (written _)
  | decrement =>
    simp only [Machine.operate]
    rw [← same]
    exact (linked.withTape _).proceed loops otherLoops (written _)
  | output => exact linked.emit loops otherLoops tape
  | input =>
    simp only [Machine.operate, takeInput]
    rw [← linked.alike.pending]
    split
    -- The same bytes are pending, so both machines have one or both ask.
    · rename_i byte more _
      exact (linked.withPending more).store loops otherLoops byte tape
    · exact linked.ask loops otherLoops code otherCode tape
  | breakpoint => exact absurd rfl proper

/-- An input instruction of both programs takes the same from an entry. -/
theorem receiveInput {pos place : Nat} (code : one.code = .op pos .input rest)
    (otherCode : other.code = .op place .input otherRest) (tape : one.tape = before.tape)
    (entry : Entry) :
    Joint before otherBefore rest otherRest (one.receiveInput rest entry)
      (other.receiveInput otherRest entry) := by
  -- The entry is a line or the end of the input for both, or it ends both runs.
  cases entry with
  | line text =>
    cases mode : one.inputMode with
    | stream =>
      have otherMode : other.inputMode = .stream := linked.alike.inputMode ▸ mode
      cases text with
      | nil =>
        simpa only [Machine.receiveInput, mode, otherMode] using
          linked.store loops otherLoops newline tape
      | cons byte more =>
        have kept := linked.withPending (more ++ [newline])
        simpa only [Machine.receiveInput, mode, otherMode] using
          kept.store loops otherLoops byte tape
    | line =>
      have otherMode : other.inputMode = .line := linked.alike.inputMode ▸ mode
      cases text with
      | nil =>
        simpa only [Machine.receiveInput, mode, otherMode] using
          linked.ask loops otherLoops code otherCode tape
      | cons byte more =>
        simpa only [Machine.receiveInput, mode, otherMode] using
          linked.store loops otherLoops byte tape
  | ended report =>
    simp only [Machine.receiveInput]
    -- The end of the input leaves the tape as it is.
    rw [← linked.alike.tape]
    refine (linked.record rfl).proceed loops otherLoops ?_
    rw [← tape]
    exact .refl one.tape
  | failed reason => exact .ended (linked.alike.finish _) rfl
  | cancelled =>
    have cancelled : Alike one.cancel other.cancel :=
      linked.alike.changed Machine.cancel rfl rfl
    exact .ended (cancelled.finish _) rfl

end

section

variable (linked : Linked one other)
include linked

/-- What both programs have in common is executed by both. -/
theorem advance {pos place : Nat} {action : Op} (proper : action ≠ .breakpoint)
    (code : one.code = .op pos action rest) (otherCode : other.code = .op place action otherRest) :
    Joint one other rest otherRest one.advance other.advance := by
  obtain ⟨outside, otherOutside⟩ := linked.outside
  simp only [Machine.advance, Machine.execute, code, otherCode, outside, otherOutside, if_false]
  -- The start of the instruction changes neither loops nor tape.
  have loops : (one.begin pos (.basic action)).loops = one.loops := rfl
  have otherLoops : (other.begin place (.basic action)).loops = other.loops := rfl
  exact (linked.begin pos place _).operate loops otherLoops proper code otherCode rfl

/-- Both machines are handed the same entry. -/
theorem receive (asking : one.status = .asking) {pos place : Nat}
    (code : one.code = .op pos .input rest) (otherCode : other.code = .op place .input otherRest)
    (entry : Entry) : Joint one other rest otherRest (one.receive entry) (other.receive entry) := by
  have otherAsking : other.status = .asking := linked.alike.status ▸ asking
  have kept := one.untouched_recordEntry entry
  have otherKept := other.untouched_recordEntry entry
  -- Writing the entry down leaves both machines at their input instruction.
  simp only [Machine.receive, asking, otherAsking, code, otherCode]
  exact (linked.recordEntry entry).receiveInput kept.loops otherKept.loops (kept.code.trans code)
    (otherKept.code.trans otherCode) kept.tape entry

end

end Linked

end Machine

namespace Session

/-- A machine that is ready makes the move itself. -/
theorem step_of_ready {session : Session} (ready : session.machine.status = .ready) :
    session.step = ⟨session.machine.advance, session.script⟩ := by
  simp only [step, ready]

/-- A machine that waits for input is handed the next entry. -/
theorem step_of_asking {session : Session} (asking : session.machine.status = .asking) :
    session.step = ⟨session.machine.receive (session.script.headD .endOfInput),
      session.script.tail⟩ := by
  simp only [step, asking, handOver_eq]

end Session

end TapeMachine
