import TapeMachine.Proofs.Machine.Place

/-! What one move can do to the code, the loops, the tape and the count of steps. -/

namespace TapeMachine

namespace Tape

/-- A tape that one instruction may leave: only the current cell may differ, and the pointer has
moved by one cell at most and has not left the tape. -/
structure Near (before after : Tape) : Prop where
  length : after.length = before.length
  right : after.pointer ≤ before.pointer + 1
  left : before.pointer ≤ after.pointer + 1
  elsewhere : ∀ address, address ≠ before.pointer →
    after.cells[address]? = before.cells[address]?
  inside : before.pointer < before.length → after.pointer < after.length

/-- A tape that is left alone. -/
theorem Near.refl (tape : Tape) : Near tape tape :=
  ⟨rfl, by omega, by omega, fun _ _ => rfl, id⟩

/-- The pointer of a fresh tape is on a cell, if there is one. -/
theorem blank_inside {length : Nat} (positive : 0 < length) :
    (blank length).pointer < (blank length).length := by
  simpa [blank, Tape.length] using positive

/-- A tape whose current cell is changed. -/
theorem near_write (tape : Tape) (value : UInt8) : Near tape (tape.write value) where
  length := by simp [length, write]
  right := by simp [write]
  left := by simp [write]
  elsewhere address other := by
    simp only [write, Array.getElem?_setIfInBounds, if_neg (Ne.symm other)]
  inside on := by simpa [length, write] using on

/-- A tape whose pointer has moved to the next cell. -/
theorem near_moveRight {tape moved : Tape} (found : tape.moveRight = .ok moved) :
    Near tape moved := by
  unfold moveRight at found
  split at found
  · rename_i room
    cases found
    exact ⟨rfl, Nat.le_refl _, by dsimp only; omega, fun _ _ => rfl, fun _ => room⟩
  · cases found

/-- A tape whose pointer has moved to the cell before. -/
theorem near_moveLeft {tape moved : Tape} (found : tape.moveLeft = .ok moved) :
    Near tape moved := by
  unfold moveLeft at found
  split at found
  · cases found
    refine ⟨rfl, by dsimp only; omega, by dsimp only; omega, fun _ _ => rfl, fun on => ?_⟩
    exact Nat.lt_of_le_of_lt (Nat.sub_le _ _) on
  · cases found

end Tape

namespace Machine

/-- What an operation leaves: a changed tape and the code behind it, or everything as it was while
the machine waits or the run is over. -/
structure Operated (before after : Machine) (rest : Code) : Prop where
  steps : after.steps = before.steps
  loops : after.loops = before.loops
  near : before.tape.Near after.tape
  code : (after.code = rest ∧ after.status = .ready) ∨
    (after.code = before.code ∧ after.tape = before.tape)

/-- An operation that leaves the program untouched. -/
theorem operated_of_untouched {before after : Machine} (kept : Untouched before after)
    (rest : Code) : Operated before after rest where
  steps := kept.steps
  loops := kept.loops
  near := by rw [kept.tape]; exact .refl _
  code := .inr ⟨kept.code, kept.tape⟩

/-- A move of the pointer. -/
theorem operated_move (machine : Machine) (pos : Nat) (action : Op)
    {moved : Except PointerFault Tape} (near : ∀ tape, moved = .ok tape → machine.tape.Near tape)
    (rest : Code) : Operated machine (machine.move pos action moved rest) rest := by
  -- A fault ends the run and leaves the tape alone.
  cases moved with
  | ok tape => exact ⟨rfl, rfl, near tape rfl, .inl ⟨rfl, rfl⟩⟩
  | error fault => exact operated_of_untouched (untouched_finish _ _) rest

/-- Every operation changes the current cell at most and moves the pointer by one at most. -/
theorem operated_operate (machine : Machine) (pos : Nat) (action : Op) (rest : Code) :
    Operated machine (machine.operate pos action rest) rest := by
  -- Only moves, changes of the cell and pending input touch the tape at once.
  cases action with
  | moveRight => exact machine.operated_move pos _ (fun _ found => Tape.near_moveRight found) rest
  | moveLeft => exact machine.operated_move pos _ (fun _ found => Tape.near_moveLeft found) rest
  | increment => exact ⟨rfl, rfl, Tape.near_write _ _, .inl ⟨rfl, rfl⟩⟩
  | decrement => exact ⟨rfl, rfl, Tape.near_write _ _, .inl ⟨rfl, rfl⟩⟩
  | output =>
    obtain ⟨written, kept, result⟩ := machine.emit_eq rest
    simp only [operate, result]
    split
    · exact operated_of_untouched (kept.trans (untouched_finish _ _)) rest
    · exact ⟨kept.steps, kept.loops, (operated_of_untouched kept rest).near, .inl ⟨rfl, rfl⟩⟩
  | input =>
    simp only [operate, takeInput]
    split
    · exact ⟨rfl, rfl, Tape.near_write _ _, .inl ⟨rfl, rfl⟩⟩
    · exact operated_of_untouched machine.untouched_ask rest
  | breakpoint =>
    have kept := untouched_setMode (machine.record (.breakpoint pos)) .debugging
    exact ⟨kept.steps, kept.loops, by rw [operate, proceed, kept.tape]; exact .refl _,
      .inl ⟨rfl, rfl⟩⟩

/-- Everything that one move can do. -/
inductive Shift (before : Machine) : Machine → Prop
  /-- Nothing of the program: output, console, another request for input, the end of the run. -/
  | rest {after : Machine} (code : after.code = before.code) (loops : after.loops = before.loops)
      (tape : after.tape = before.tape) (steps : after.steps = before.steps)
      (waiting : after.status = .asking → before.status = .asking) : Shift before after
  /-- The innermost loop is left. -/
  | left {after : Machine} {loop : ActiveLoop} (code : before.code = .done)
      (loops : before.loops = loop :: after.loops) (behind : after.code = loop.rest)
      (tape : after.tape = before.tape) (steps : after.steps = before.steps)
      (status : after.status = before.status) : Shift before after
  /-- The innermost loop begins a pass. -/
  | again {after : Machine} {loop : ActiveLoop} {outer : List ActiveLoop}
      (code : before.code = .done) (around : before.loops = loop :: outer)
      (loops : after.loops = before.loops) (inside : after.code = loop.body)
      (tape : after.tape = before.tape) (steps : after.steps = before.steps)
      (status : after.status = before.status) : Shift before after
  /-- A loop is entered. -/
  | entered {after : Machine} {place : Nat} {body rest : Code}
      (code : before.code = .loop place body rest) (inside : after.code = .done)
      (loops : after.loops = ⟨body, rest⟩ :: before.loops) (tape : after.tape = before.tape)
      (steps : after.steps = before.steps + 1) (status : after.status = .ready) :
      Shift before after
  /-- An operation is executed; an input instruction may have to wait. -/
  | executed {after : Machine} {place : Nat} {action : Op} {rest : Code}
      (code : before.code = .op place action rest) (steps : after.steps = before.steps + 1)
      (loops : after.loops = before.loops) (near : before.tape.Near after.tape)
      (behind : (after.code = rest ∧ after.status = .ready) ∨
        (after.code = before.code ∧ after.tape = before.tape)) : Shift before after
  /-- An input instruction that has waited gets what it needs. -/
  | completed {after : Machine} {place : Nat} {action : Op} {rest : Code}
      (code : before.code = .op place action rest) (waited : before.status = .asking)
      (steps : after.steps = before.steps) (loops : after.loops = before.loops)
      (near : before.tape.Near after.tape) (behind : after.code = rest)
      (status : after.status = .ready) : Shift before after

/-- A move that leaves the program untouched. -/
theorem Shift.ofUntouched {before after : Machine} (kept : Untouched before after)
    (waiting : after.status = .asking → before.status = .asking) : Shift before after :=
  .rest kept.code kept.loops kept.tape kept.steps waiting

/-- The next instruction is executed by a machine that has only been to the console before. -/
theorem shift_execute {before heard : Machine} (kept : Untouched before heard)
    (next : before.code ≠ .done) : Shift before heard.execute := by
  cases code : before.code with
  | done => exact absurd code next
  | op place action rest =>
    -- What the operation leaves is told of the machine behind the console, which is the same.
    have operated := operated_operate (heard.begin place (.basic action)) place action rest
    have whole : heard.execute = (heard.begin place (.basic action)).operate place action rest := by
      simp only [execute, kept.code, code]
    rw [whole]
    refine .executed code ?_ ?_ ?_ ?_
    · rw [operated.steps, begin, kept.steps]
    · rw [operated.loops, begin, kept.loops]
    · rw [← kept.tape]
      exact operated.near
    · rw [← kept.tape, ← kept.code]
      exact operated.code
  | loop place body rest =>
    have whole : heard.execute = { heard.begin place .loop with
        code := .done, loops := ⟨body, rest⟩ :: heard.loops, status := .ready } := by
      simp only [execute, kept.code, code]
    rw [whole, kept.loops]
    exact .entered code rfl rfl kept.tape (by rw [begin, kept.steps]) rfl

/-- The end of a run is no wait for input. -/
theorem finish_status_ne_asking (machine : Machine) (error : Option RunError) :
    (machine.finish error).status ≠ .asking := by
  obtain ⟨result, ended⟩ := machine.status_finish error
  rw [ended]
  exact fun same => nomatch same

/-- A stop in the console is no wait for input. -/
theorem stop_status_ne_asking (machine : Machine) (pos : Nat) (opcode : Opcode) :
    (machine.stop pos opcode).status ≠ .asking := by
  unfold stop
  dsimp only
  split
  · exact finish_status_ne_asking _ _
  · exact fun same => nomatch same

/-- What a machine that waits for nobody can do. -/
theorem shift_advance (machine : Machine) : Shift machine machine.advance := by
  -- At the end of a body the innermost loop is tested; without one the program is over.
  by_cases code : machine.code = .done
  · cases loops : machine.loops with
    | nil =>
      simp only [advance, code, loops]
      exact .ofUntouched (untouched_finish _ _) fun asking =>
        absurd asking (finish_status_ne_asking _ _)
    | cons innermost outer =>
      have tested : machine.advance = machine.test innermost outer := by
        simp only [advance, code, loops]
      rw [tested]
      unfold test
      dsimp only
      split
      · exact .left code loops rfl rfl rfl rfl
      · -- A pass begins unless the run has been cancelled.
        split
        · exact .rest rfl rfl rfl rfl fun asking => absurd asking (finish_status_ne_asking _ _)
        · exact .again code loops rfl rfl rfl rfl rfl
  · obtain ⟨pos, opcode, result⟩ := advance_of_next code
    rw [result]
    split
    · exact .ofUntouched (machine.untouched_stop pos opcode) fun asking =>
        absurd asking (machine.stop_status_ne_asking pos opcode)
    · exact shift_execute (.refl machine) code

/-- What an input instruction that has waited can do. -/
theorem shift_receiveInput {before noted : Machine} (kept : Untouched before noted)
    (waited : before.status = .asking) {place : Nat} {action : Op} {rest : Code}
    (code : before.code = .op place action rest) (entry : Entry) :
    Shift before (noted.receiveInput rest entry) := by
  -- Whatever is still pending, storing a byte completes the instruction.
  have store : ∀ (stored : Machine) (byte : UInt8), stored.tape = noted.tape →
      stored.loops = noted.loops → stored.steps = noted.steps →
      Shift before (stored.store byte rest) := by
    intro stored byte tape loops steps
    refine .completed code waited (steps.trans kept.steps) (loops.trans kept.loops) ?_ rfl rfl
    rw [store, proceed, record, tape, kept.tape]
    exact Tape.near_write _ _
  cases entry with
  | line text =>
    simp only [receiveInput]
    split
    · exact store noted newline rfl rfl rfl
    · exact store _ _ rfl rfl rfl
    · exact .ofUntouched (kept.trans noted.untouched_ask) fun _ => waited
    · exact store noted _ rfl rfl rfl
  | ended report =>
    refine .completed code waited kept.steps kept.loops ?_ rfl rfl
    rw [receiveInput, proceed, record, kept.tape]
    exact .refl _
  | failed reason => exact .ofUntouched (kept.trans (untouched_finish _ _)) fun _ => waited
  | cancelled =>
    have ended := untouched_finish noted.cancel (some (.readInput .cancelled))
    exact .rest (ended.code.trans kept.code) (ended.loops.trans kept.loops)
      (ended.tape.trans kept.tape) (ended.steps.trans kept.steps) fun _ => waited

/-- What a machine in the console can do. -/
theorem shift_receiveCommand {before noted : Machine} (kept : Untouched before noted)
    (next : before.code ≠ .done) (pos : Nat) (opcode : Opcode) (entry : Entry) :
    Shift before (noted.receiveCommand pos opcode entry) := by
  -- The console answers, executes the next instruction, or ends the run with an error.
  rcases noted.receiveCommand_cases pos opcode entry with
    ⟨heard, listened, stopped | executed⟩ | ⟨reason, -, ended⟩ | ⟨-, ended⟩
  · rw [stopped]
    exact .ofUntouched ((kept.trans listened).trans (untouched_stop _ _ _)) fun asking =>
      absurd asking (stop_status_ne_asking _ _ _)
  · rw [executed]
    exact shift_execute (kept.trans listened) next
  · rw [ended]
    exact .ofUntouched (kept.trans (untouched_finish _ _)) fun asking =>
      absurd asking (finish_status_ne_asking _ _)
  · rw [ended]
    have finished := untouched_finish noted.cancel (some (.readCommand .cancelled))
    exact .rest (finished.code.trans kept.code) (finished.loops.trans kept.loops)
      (finished.tape.trans kept.tape) (finished.steps.trans kept.steps) fun asking =>
      absurd asking (finish_status_ne_asking _ _)

/-- What a machine that waits for a line can do. -/
theorem shift_receive (machine : Machine) (entry : Entry) :
    Shift machine (machine.receive entry) := by
  have kept := machine.untouched_recordEntry entry
  -- A stopped machine hears a command, and one that asks gets its input.
  unfold receive
  dsimp only
  split
  · rename_i code
    exact shift_receiveCommand kept (by simp [code]) _ _ entry
  · rename_i code
    exact shift_receiveCommand kept (by simp [code]) _ _ entry
  · rename_i waited code
    exact shift_receiveInput kept waited code entry
  · refine .ofUntouched kept fun asking => ?_
    cases entry <;> exact asking

end Machine

namespace Session

/-- What one move of a session can do to its machine. -/
theorem shift_step (session : Session) : session.machine.Shift session.step.machine := by
  have handed : session.machine.Shift session.handOver.machine := by
    unfold handOver
    split <;> exact Machine.shift_receive _ _
  unfold step
  split
  · exact Machine.shift_advance _
  · exact handed
  · exact handed
  · exact .rest rfl rfl rfl rfl id

/-- Runs the program once more on the same machine, under a cancellation of its own. -/
def rerun (session : Session) (cancellation : Cancellation) : Session :=
  { session.restart with machine := { session.restart.machine with cancellation := cancellation } }

/-- The sessions that come from one by moves, and by further runs once a run is over. -/
inductive Reaches (start : Session) : Session → Prop
  /-- The session itself. -/
  | refl : Reaches start start
  /-- One more move. -/
  | step {session : Session} : Reaches start session → Reaches start session.step
  /-- One more run. -/
  | rerun {session : Session} (cancellation : Cancellation) : Reaches start session →
      session.machine.isHalted = true → Reaches start (session.rerun cancellation)

/-- Whatever the session comes to keeps the program. -/
theorem Reaches.fixed {start session : Session} (reached : start.Reaches session) :
    session.machine.fixed = start.machine.fixed := by
  -- A rerun starts the same program again.
  induction reached with
  | refl => rfl
  | step _ ih => rw [fixed_step, ih]
  | rerun cancellation _ _ ih => exact ih

end Session

end TapeMachine
