import TapeMachine.Proofs.Machine.Debugger
import TapeMachine.Proofs.Machine.Shift

/-! What one move can do in front of an operation, with all the ways in which the run can end
there. -/

namespace TapeMachine

/-- Where an operation moves the data pointer, if it does. -/
def Op.shift (action : Op) (tape : Tape) : Except PointerFault Tape :=
  match action with
  | .moveRight => tape.moveRight
  | .moveLeft => tape.moveLeft
  | _ => .ok tape

/-- What an operation does to the tape alone. -/
def Op.act (action : Op) (tape : Tape) : Except PointerFault Tape :=
  match action with
  | .moveRight => tape.moveRight
  | .moveLeft => tape.moveLeft
  | .increment => .ok (tape.write (tape.cell + 1))
  | .decrement => .ok (tape.write (tape.cell - 1))
  | _ => .ok tape

/-- Whether an operation works on the tape alone. -/
def Op.isOnTape : Op → Bool
  | .moveRight | .moveLeft | .increment | .decrement => true
  | _ => false

/-- How many times a machine can be made to wait in front of an instruction without a line. -/
def Status.patience : Status → Nat
  | ready => 2
  | stopped => 1
  | asking => 0
  | halted _ => 0

namespace Machine

/-- The machine behind an operation that has changed nothing but the tape. -/
def acted (machine : Machine) (pos : Nat) (action : Op) (tape : Tape) (rest : Code) : Machine :=
  { machine.begin pos (.basic action) with tape := tape }.proceed rest

/-- The code, the loops and the tape are the same before and after. -/
structure SamePlace (before after : Machine) : Prop where
  code : after.code = before.code
  loops : after.loops = before.loops
  tape : after.tape = before.tape

/-- What leaves the program untouched leaves it at its place. -/
theorem Untouched.samePlace {before after : Machine} (kept : Untouched before after) :
    SamePlace before after :=
  ⟨kept.code, kept.loops, kept.tape⟩

/-- What two moves leave at its place, both together leave there. -/
theorem SamePlace.trans {first second third : Machine} (early : SamePlace first second)
    (late : SamePlace second third) : SamePlace first third :=
  ⟨late.code.trans early.code, late.loops.trans early.loops, late.tape.trans early.tape⟩

/-- Everything that one move can do in front of an operation, given what the line source has handed
out for it, if anything. -/
inductive Passage (before : Machine) (pos : Nat) (action : Op) (rest : Code)
    (handed : Option Entry) : Machine → Prop
  /-- The machine waits in front of the operation. It cannot wait for ever without a line. -/
  | waits {after : Machine} (code : after.code = before.code) (loops : after.loops = before.loops)
      (tape : after.tape = before.tape)
      (waiting : after.status = .stopped ∨ after.status = .asking ∧ action = .input)
      (sooner : after.status.patience < before.status.patience ∨
        ∃ text, handed = some (.line text)) : Passage before pos action rest handed after
  /-- The operation is done. -/
  | passes {after : Machine} {moved : Tape} (shift : action.shift before.tape = .ok moved)
      (pointer : after.tape.pointer = moved.pointer)
      (length : after.tape.length = before.tape.length) (code : after.code = rest)
      (loops : after.loops = before.loops) (status : after.status = .ready) :
      Passage before pos action rest handed after
  /-- The operation moves the data pointer off the tape. -/
  | faults {after : Machine} {fault : PointerFault}
      (shift : action.shift before.tape = .error fault) (status : after.status =
        .halted (some (.pointer pos (.basic action) before.tape.pointer fault))) :
      Passage before pos action rest handed after
  /-- The sink or the line source fails. -/
  | breaks {after : Machine} {error : RunError} (status : after.status = .halted (some error))
      (foreign : ∀ place opcode pointer fault, error ≠ .pointer place opcode pointer fault)
      (cause : after.writer.failed = true ∨
        ∃ entry, handed = some entry ∧ entry.isOrderly = false) :
      Passage before pos action rest handed after

/-- A sink that has failed is not tried again at the end of the run. -/
theorem failed_finish {machine : Machine} (failed : machine.writer.failed = true)
    (error : Option RunError) : (machine.finish error).writer.failed = true := by
  simp [finish, flush, deliver, Writer.flush, failed, record]

/-- Stopping in the console prints the prompt first, and then waits or fails. -/
theorem stop_eq (machine : Machine) (pos : Nat) (opcode : Opcode) :
    ∃ prompted, Untouched machine prompted ∧
      machine.stop pos opcode = if prompted.writer.failed then prompted.finish (some .flush)
        else { prompted with status := .stopped } := by
  refine ⟨(machine.print (Console.prompt pos machine.tape.pointer opcode)).flush, ?_, ?_⟩
  · exact (untouched_print _ _).trans (untouched_flush _)
  · simp only [stop]

section

variable {before heard : Machine} {pos : Nat} {action : Op} {rest : Code} {handed : Option Entry}

/-- A sink that has failed ends the run with an error that is not about the pointer. -/
theorem passage_of_failed (failed : heard.writer.failed = true) {error : RunError}
    (foreign : ∀ place opcode pointer fault, error ≠ .pointer place opcode pointer fault) :
    Passage before pos action rest handed (heard.finish (some error)) :=
  .breaks rfl foreign (.inl (failed_finish failed _))

/-- A line source that fails ends the run with an error that is not about the pointer. -/
theorem passage_of_disorder {entry : Entry} (disorder : entry.isOrderly = false) {error : RunError}
    (foreign : ∀ place opcode pointer fault, error ≠ .pointer place opcode pointer fault) :
    Passage before pos action rest (some entry) (heard.finish (some error)) :=
  .breaks rfl foreign (.inr ⟨entry, rfl, disorder⟩)

/-- A stop in the console is a passage if it wears the patience of the machine down. -/
theorem passage_stop (place : SamePlace before heard)
    (sooner : 1 < before.status.patience ∨ ∃ text, handed = some (.line text)) (there : Nat)
    (opcode : Opcode) : Passage before pos action rest handed (heard.stop there opcode) := by
  obtain ⟨prompted, shown, result⟩ := heard.stop_eq there opcode
  have same := place.trans shown.samePlace
  rw [result]
  split
  · rename_i failed
    exact passage_of_failed failed (by simp)
  · exact .waits same.code same.loops same.tape (.inl rfl) sooner

/-- A question for input is a passage if it wears the patience of the machine down. -/
theorem passage_ask (place : SamePlace before heard)
    (sooner : 0 < before.status.patience ∨ ∃ text, handed = some (.line text)) :
    Passage before pos .input rest handed heard.ask := by
  have same := place.trans heard.untouched_ask.samePlace
  by_cases failed : heard.flush.writer.failed = true
  · simp only [ask, failed, if_true]
    exact passage_of_failed failed (by simp)
  · have status : heard.ask.status = .asking := by simp [ask, failed]
    refine .waits same.code same.loops same.tape (.inr ⟨status, rfl⟩) ?_
    rw [status]
    exact sooner

/-- An operation that moves the pointer, or ends the run with its fault. -/
theorem passage_move (place : SamePlace before heard)
    (near : ∀ tape, action.shift before.tape = .ok tape → before.tape.Near tape) :
    Passage before pos action rest handed
      (heard.move pos action (action.shift heard.tape) rest) := by
  rw [place.tape]
  cases shift : action.shift before.tape with
  | ok moved => exact .passes shift rfl (near moved shift).length rfl place.loops rfl
  | error fault =>
    -- The error names the place where the pointer was.
    refine .faults shift ?_
    rw [← place.tape]
    rfl

/-- An operation that leaves the pointer where it is, and has perhaps changed the current cell. -/
theorem passage_proceed (place : SamePlace before heard)
    (still : action.shift before.tape = .ok before.tape) {written : Machine}
    (loops : written.loops = heard.loops)
    (tape : written.tape = heard.tape ∨ ∃ value, written.tape = heard.tape.write value) :
    Passage before pos action rest handed (written.proceed rest) := by
  rw [place.tape] at tape
  refine .passes still ?_ ?_ rfl (loops.trans place.loops) rfl
  · rcases tape with same | ⟨value, changed⟩
    · exact congrArg Tape.pointer same
    · simp only [proceed, changed, Tape.write]
  · rcases tape with same | ⟨value, changed⟩
    · exact congrArg Tape.length same
    · exact (congrArg Tape.length changed).trans (Tape.near_write _ _).length

/-- An operation is done in one move, waits for its input, or ends the run. -/
theorem passage_operate (place : SamePlace before heard)
    (sooner : 0 < before.status.patience ∨ ∃ text, handed = some (.line text)) :
    Passage before pos action rest handed (heard.operate pos action rest) := by
  -- Only the two moves of the pointer can fault, and only input can wait.
  cases action with
  | moveRight => exact passage_move place fun _ found => Tape.near_moveRight found
  | moveLeft => exact passage_move place fun _ found => Tape.near_moveLeft found
  | increment => exact passage_proceed place rfl rfl (.inr ⟨_, rfl⟩)
  | decrement => exact passage_proceed place rfl rfl (.inr ⟨_, rfl⟩)
  | output =>
    obtain ⟨written, same, result⟩ := heard.emit_eq rest
    simp only [operate, result]
    split
    · rename_i failed
      exact passage_of_failed failed (by simp)
    · exact passage_proceed place rfl same.loops (.inl same.tape)
  | input =>
    simp only [operate, takeInput]
    split
    · exact passage_proceed place rfl rfl (.inr ⟨_, rfl⟩)
    · exact passage_ask place sooner
  | breakpoint =>
    have same := untouched_setMode (heard.record (.breakpoint pos)) .debugging
    exact passage_proceed place rfl same.loops (.inl same.tape)

/-- The operation is executed by a machine that has only been to the console before. -/
theorem passage_execute (place : SamePlace before heard) (next : before.code = .op pos action rest)
    (sooner : 0 < before.status.patience ∨ ∃ text, handed = some (.line text)) :
    Passage before pos action rest handed heard.execute := by
  have whole : heard.execute = (heard.begin pos (.basic action)).operate pos action rest := by
    simp only [execute, place.code, next]
  rw [whole]
  exact passage_operate (place.trans ⟨rfl, rfl, rfl⟩) sooner

/-- What the console gets in front of an operation. -/
theorem passage_receiveCommand (place : SamePlace before heard)
    (next : before.code = .op pos action rest) (stopped : before.status = .stopped)
    (entry : Entry) : Passage before pos action rest (some entry)
      (heard.receiveCommand pos (.basic action) entry) := by
  have patient : 0 < before.status.patience := by simp [stopped, Status.patience]
  cases entry with
  | line text =>
    -- The console may stop again, but only at the price of a line.
    obtain ⟨answered, kept, result | result⟩ := heard.command_cases pos (.basic action) text
    · rw [receiveCommand, result]
      exact passage_stop (place.trans kept.samePlace) (.inr ⟨text, rfl⟩) _ _
    · rw [receiveCommand, result]
      exact passage_execute (place.trans kept.samePlace) next (.inl patient)
  | ended report =>
    -- The console closes for good, so the machine does not stop here again.
    have closed := (heard.untouched_record (rfl : (Event.consoleClosed pos).isOwn = false)).trans
      (untouched_setMode _ .running)
    exact passage_execute (place.trans closed.samePlace) next (.inl patient)
  | failed reason => exact passage_of_disorder rfl (by simp)
  | cancelled => exact passage_of_disorder rfl (by simp)

/-- What an input instruction gets that has asked for a line. -/
theorem passage_receiveInput (place : SamePlace before heard) (entry : Entry) :
    Passage before pos .input rest (some entry) (heard.receiveInput rest entry) := by
  cases entry with
  | line text =>
    simp only [receiveInput]
    split
    · exact passage_proceed place rfl rfl (.inr ⟨_, rfl⟩)
    · exact passage_proceed place rfl rfl (.inr ⟨_, rfl⟩)
    · -- An empty line is skipped, and the instruction asks again.
      exact passage_ask place (.inr ⟨_, rfl⟩)
    · exact passage_proceed place rfl rfl (.inr ⟨_, rfl⟩)
  | ended report => exact passage_proceed place rfl rfl (.inl rfl)
  | failed reason => exact passage_of_disorder rfl (by simp)
  | cancelled => exact passage_of_disorder rfl (by simp)

end

/-- A machine that waits for nobody, in front of an operation. -/
theorem passage_advance {machine : Machine} (ready : machine.status = .ready) {pos : Nat}
    {action : Op} {rest : Code} (next : machine.code = .op pos action rest) :
    Passage machine pos action rest none machine.advance := by
  have place := (Untouched.refl machine).samePlace
  simp only [advance, next]
  split
  · exact passage_stop place (by simp [ready, Status.patience]) _ _
  · exact passage_execute place next (by simp [ready, Status.patience])

/-- A machine that waits for a line, in front of an operation. -/
theorem passage_receive {machine : Machine} {pos : Nat} {action : Op} {rest : Code}
    (next : machine.code = .op pos action rest)
    (waiting : machine.status = .stopped ∨ machine.status = .asking ∧ action = .input)
    (entry : Entry) : Passage machine pos action rest (some entry) (machine.receive entry) := by
  have noted := (machine.untouched_recordEntry entry).samePlace
  rcases waiting with stopped | ⟨asking, rfl⟩
  · simp only [receive, stopped, next]
    exact passage_receiveCommand noted next stopped entry
  · simp only [receive, asking, next]
    exact passage_receiveInput noted entry

/-- A machine that is ready, or that waits in front of an operation. -/
def UnderWay (machine : Machine) : Prop :=
  machine.status = .ready ∨ ∃ pos action rest, machine.code = .op pos action rest ∧
    (machine.status = .stopped ∨ machine.status = .asking ∧ action = .input)

/-- A machine that waits in front of an operation is under way, and so is one behind it. -/
theorem Passage.underWay {before after : Machine} {pos : Nat} {action : Op} {rest : Code}
    {handed : Option Entry} (passage : Passage before pos action rest handed after)
    (next : before.code = .op pos action rest) (running : after.isHalted = false) :
    after.UnderWay := by
  cases passage with
  | waits code loops tape waiting sooner => exact .inr ⟨pos, action, rest, code.trans next, waiting⟩
  | passes shift pointer length code loops status => exact .inl status
  | faults shift status => simp [isHalted, status] at running
  | breaks status foreign cause => simp [isHalted, status] at running

end Machine

namespace Session

/-- What the line source hands out in the next move, if it is asked. -/
def handed? (session : Session) : Option Entry :=
  match session.machine.status with
  | .stopped | .asking => some (session.script.headD .endOfInput)
  | _ => none

/-- Handing over takes the next entry, or the end of the input. -/
theorem handOver_eq (session : Session) :
    session.handOver =
      ⟨session.machine.receive (session.script.headD .endOfInput), session.script.tail⟩ := by
  unfold handOver
  cases session.script <;> rfl

/-- Only what is handed out leaves the script. -/
theorem script_step (session : Session) :
    session.step.script =
      if session.handed?.isSome then session.script.tail else session.script := by
  unfold step handed?
  rw [handOver_eq]
  cases session.machine.status <;> rfl

/-- A line that is handed out leaves the script. -/
theorem length_of_handed {session : Session} {text : Bytes}
    (handed : session.handed? = some (.line text)) :
    session.step.script.length + 1 = session.script.length := by
  rw [script_step, handed]
  -- Without an entry only the end of the input could be handed out.
  unfold handed? at handed
  cases script : session.script with
  | nil =>
    rw [script] at handed
    split at handed <;> cases handed
  | cons entry rest => rfl

/-- A failure that is handed out stands in the script. -/
theorem mem_of_handed {session : Session} {entry : Entry} (handed : session.handed? = some entry)
    (disorder : entry.isOrderly = false) : entry ∈ session.script := by
  unfold handed? at handed
  cases script : session.script with
  | nil =>
    rw [script] at handed
    split at handed <;> cases handed <;> cases disorder
  | cons first rest =>
    rw [script] at handed
    split at handed <;> cases handed <;> exact List.mem_cons_self

/-- What one move does in front of an operation. -/
theorem passage_step {session : Session} (underWay : session.machine.UnderWay) {pos : Nat}
    {action : Op} {rest : Code} (next : session.machine.code = .op pos action rest) :
    session.machine.Passage pos action rest session.handed? session.step.machine := by
  rcases underWay with ready | ⟨_, _, _, code, waiting⟩
  · simp only [handed?, step, ready]
    exact Machine.passage_advance ready next
  · obtain ⟨rfl, rfl, rfl⟩ := Code.op.inj (next.symm.trans code)
    have received := Machine.passage_receive next waiting (session.script.headD .endOfInput)
    rcases waiting with stopped | ⟨asking, -⟩
    · simpa only [handed?, step, stopped, handOver_eq] using received
    · simpa only [handed?, step, asking, handOver_eq] using received

/-- More moves than this a session cannot make in code without loops. -/
def rank (session : Session) : Nat :=
  3 * (session.machine.code.size + session.script.length) + session.machine.status.patience

/-- A move that does not end the run brings its end nearer. -/
theorem rank_step {session : Session} {pos : Nat} {action : Op} {rest : Code}
    (next : session.machine.code = .op pos action rest)
    (passage : session.machine.Passage pos action rest session.handed? session.step.machine)
    (running : session.step.machine.isHalted = false) : session.step.rank < session.rank := by
  -- An operation or a line is worth more than all the patience that a machine can have.
  have patient : session.step.machine.status.patience ≤ 2 := by
    cases session.step.machine.status <;> simp [Status.patience]
  have fewer : session.step.script.length ≤ session.script.length := by
    rw [script_step]
    split
    · simp
    · exact Nat.le_refl _
  unfold rank
  cases passage with
  | waits code loops tape waiting sooner =>
    rw [code]
    rcases sooner with sooner | ⟨text, handed⟩
    · omega
    · have taken := length_of_handed handed
      omega
  | passes shift pointer length code loops status =>
    rw [code, next, Code.size]
    omega
  | faults shift status => simp [Machine.isHalted, status] at running
  | breaks status foreign cause => simp [Machine.isHalted, status] at running

end Session

end TapeMachine
