import TapeMachine.Proofs.Machine.Untouched

/-! What a machine does that nobody disturbs: its sink takes everything, and nobody cancels it. -/

namespace TapeMachine

namespace Machine

/-- A run on an endless sink ends behind a flush, with the error that it is given. -/
theorem finish_of_unlimited {machine : Machine} (unlimited : machine.writer.Unlimited)
    (error : Option RunError) :
    machine.finish error =
      { machine.flush with status := .halted error }.record (.checkpoint machine.flush.tape.pointer
        machine.flush.tape.cell machine.flush.mode machine.flush.steps
        machine.flush.pending.length) := by
  have sound := (machine.untouched_flush.unlimited unlimited).sound
  -- Only a sink that fails could put its own error in the place of none.
  simp [finish, sound]

/-- A run on an endless sink ends with its own error. -/
theorem status_finish_of_unlimited {machine : Machine} (unlimited : machine.writer.Unlimited)
    (error : Option RunError) : (machine.finish error).status = .halted error := by
  rw [finish_of_unlimited unlimited]
  rfl

/-- A machine with an endless sink stops in the console behind its prompt. -/
theorem stop_of_unlimited {machine : Machine} (unlimited : machine.writer.Unlimited) (pos : Nat)
    (opcode : Opcode) :
    machine.stop pos opcode =
      { (machine.print (Console.prompt pos machine.tape.pointer opcode)).flush with
        status := .stopped } := by
  have prompted := (untouched_print (Console.prompt pos machine.tape.pointer opcode) machine).trans
    (untouched_flush _)
  simp only [stop, (prompted.unlimited unlimited).sound, Bool.false_eq_true, if_false]

/-- A machine with an endless sink stops in the console. -/
theorem status_stop_of_unlimited {machine : Machine} (unlimited : machine.writer.Unlimited)
    (pos : Nat) (opcode : Opcode) : (machine.stop pos opcode).status = .stopped := by
  rw [stop_of_unlimited unlimited]

/-- A machine with an endless sink waits for its input. -/
theorem status_ask_of_unlimited {machine : Machine} (unlimited : machine.writer.Unlimited) :
    machine.ask.status = .asking := by
  simp [ask, (machine.untouched_flush.unlimited unlimited).sound]

/-- Asking for a line of input does not change the mode. -/
theorem mode_ask (machine : Machine) : machine.ask.mode = machine.mode := by
  simp only [ask]
  split
  · rfl
  · split <;> rfl

/-- A machine with an endless sink puts out a text and goes on. -/
theorem emit_of_unlimited {machine : Machine} (unlimited : machine.writer.Unlimited) (rest : Code) :
    ∃ text, machine.emit rest =
      ((machine.print text).record (.output machine.tape.cell)).proceed rest := by
  have first : (machine.put machine.tape.cell).writer.Unlimited := unlimited.put _
  have second : ((machine.put machine.tape.cell).put newline).writer.Unlimited := first.put _
  simp only [emit, first.sound, Bool.not_false, Bool.true_and, decide_eq_true_eq]
  -- The text is the current cell, with a line end behind it in the debugger.
  split
  · refine ⟨[machine.tape.cell, newline], ?_⟩
    simp only [second.sound, Bool.false_eq_true, if_false]
    rfl
  · refine ⟨[machine.tape.cell], ?_⟩
    simp only [first.sound, Bool.false_eq_true, if_false]
    rfl

/-- A machine that runs on with an endless sink puts the current cell out and nothing else. -/
theorem emit_of_running {machine : Machine} (unlimited : machine.writer.Unlimited)
    (running : machine.mode = .running) (rest : Code) :
    machine.emit rest =
      ((machine.put machine.tape.cell).record (.output machine.tape.cell)).proceed rest := by
  have sound := ((machine.untouched_put machine.tape.cell).unlimited unlimited).sound
  have same : (machine.put machine.tape.cell).mode = .running := running
  -- No line end is added outside the debugger.
  simp [emit, sound, same]

/-- A run that nobody cancels is not cancelled by the start of an instruction. -/
theorem cancellation_begin {machine : Machine} (calm : machine.cancellation = .never) (pos : Nat)
    (opcode : Opcode) : (machine.begin pos opcode).cancellation = .never := by
  simp [begin, calm, Cancellation.start, Cancellation.never]

/-- A run that nobody cancels is not cancelled by the test of a loop. -/
theorem test_of_calm {machine : Machine} (calm : machine.cancellation = .never)
    (innermost : ActiveLoop) (outer : List ActiveLoop) :
    machine.test innermost outer =
      if machine.tape.cell = 0 then { machine with code := innermost.rest, loops := outer }
      else { machine with code := innermost.body } := by
  -- A check that counts nothing changes nothing.
  have unseen : machine.cancellation.check = machine.cancellation := by rw [calm]; rfl
  have uncancelled : machine.cancellation.cancelled = false := by rw [calm]; rfl
  simp [test, unseen, uncancelled]

end Machine

end TapeMachine
