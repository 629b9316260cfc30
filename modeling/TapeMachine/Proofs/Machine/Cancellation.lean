import TapeMachine.Proofs.Machine.Growth
import TapeMachine.Proofs.Machine.Undisturbed

/-! A cancellation only cuts a run short: a machine looks at it when a loop begins a pass, and
nowhere else. -/

namespace TapeMachine

/-- What somebody who watches the program is told: starts of instructions, breakpoints, changes of
the mode, and the bytes that go out and come in. -/
def Event.watched : Event → List Event
  | event@(exec ..) => [event]
  | event@(breakpoint _) => [event]
  | event@(modeChange _) => [event]
  | event@(output _) => [event]
  | event@(input _) => [event]
  | _ => []

namespace Machine

/-- The same machine under another cancellation. -/
def under (machine : Machine) (cancellation : Cancellation) : Machine :=
  { machine with cancellation }

/-- Whether the innermost loop is about to begin a pass. -/
def AtCheck (machine : Machine) : Prop :=
  machine.status = .ready ∧ machine.code = .done ∧ machine.loops ≠ [] ∧ machine.tape.cell ≠ 0

section

-- None of the following looks at the cancellation or changes it.
variable (machine : Machine) (cancellation : Cancellation)

/-- Bytes are put out alike under any cancellation. -/
theorem under_print (bytes : Bytes) :
    ∀ machine : Machine, (machine.under cancellation).print bytes =
      (machine.print bytes).under cancellation := by
  induction bytes with
  | nil => exact fun _ => rfl
  | cons byte rest ih => exact fun machine => ih (machine.put byte)

/-- A line is put out alike under any cancellation. -/
theorem under_printLine (bytes : Bytes) :
    (machine.under cancellation).printLine bytes =
      (machine.printLine bytes).under cancellation := by
  rw [printLine, under_print]
  rfl

/-- Lines are put out alike under any cancellation. -/
theorem under_printLines (lines : List Bytes) :
    ∀ machine : Machine, (machine.under cancellation).printLines lines =
      (machine.printLines lines).under cancellation := by
  induction lines with
  | nil => exact fun _ => rfl
  | cons line rest ih =>
    intro machine
    rw [printLines, List.foldl_cons, under_printLine]
    exact ih (machine.printLine line)

/-- The mode changes alike under any cancellation. -/
theorem under_setMode (mode : Mode) :
    (machine.under cancellation).setMode mode = (machine.setMode mode).under cancellation := by
  unfold setMode
  rw [apply_ite (under · cancellation)]
  -- Both branches give the same machine under either cancellation.
  rfl

/-- The console stops alike under any cancellation. -/
theorem under_stop (pos : Nat) (opcode : Opcode) :
    (machine.under cancellation).stop pos opcode =
      (machine.stop pos opcode).under cancellation := by
  have shown : (machine.under cancellation).print
      (Console.prompt pos (machine.under cancellation).tape.pointer opcode) =
      (machine.print (Console.prompt pos machine.tape.pointer opcode)).under cancellation :=
    under_print cancellation _ machine
  simp only [stop, shown]
  generalize machine.print (Console.prompt pos machine.tape.pointer opcode) = printed
  rw [apply_ite (under · cancellation)]
  rfl

/-- A line is asked for alike under any cancellation. -/
theorem under_ask : (machine.under cancellation).ask = machine.ask.under cancellation := by
  have whole (machine : Machine) : machine.ask =
      if machine.flush.writer.failed then machine.flush.finish (some .flush)
      else if machine.prompting then { machine.flush.record .prompted with status := .asking }
      else { machine.flush with status := .asking } := by
    -- Whether the user is prompted decides between the last two branches only.
    cases prompting : machine.prompting <;>
      simp only [ask, flush, deliver, prompting, if_true, Bool.false_eq_true, if_false]
  rw [whole, whole, apply_ite (under · cancellation), apply_ite (under · cancellation)]
  rfl

/-- The pointer moves alike under any cancellation. -/
theorem under_move (pos : Nat) (action : Op) (moved : Except PointerFault Tape) (rest : Code) :
    (machine.under cancellation).move pos action moved rest =
      (machine.move pos action moved rest).under cancellation := by
  cases moved <;> rfl

/-- The current cell is put out alike under any cancellation. -/
theorem under_emit (rest : Code) :
    (machine.under cancellation).emit rest = (machine.emit rest).under cancellation := by
  have put : (machine.under cancellation).put (machine.under cancellation).tape.cell =
      (machine.put machine.tape.cell).under cancellation := rfl
  simp only [emit, put]
  generalize machine.put machine.tape.cell = written
  -- In the debugger a line end follows the byte; then the run goes on or fails.
  have same : (!(written.under cancellation).writer.failed &&
      decide ((written.under cancellation).mode = .debugging)) =
      (!written.writer.failed && decide (written.mode = .debugging)) := rfl
  rw [same]
  cases !written.writer.failed && decide (written.mode = .debugging)
  · simp only [Bool.false_eq_true, if_false]
    rw [apply_ite (under · cancellation)]
    rfl
  · simp only [if_true]
    rw [apply_ite (under · cancellation)]
    rfl

/-- An operation does the same under any cancellation. -/
theorem under_operate (pos : Nat) (action : Op) (rest : Code) :
    (machine.under cancellation).operate pos action rest =
      (machine.operate pos action rest).under cancellation := by
  cases action with
  | moveRight => exact under_move _ _ _ _ _ _
  | moveLeft => exact under_move _ _ _ _ _ _
  | increment => rfl
  | decrement => rfl
  | output => exact under_emit _ _ _
  | input =>
    have same : (machine.under cancellation).pending = machine.pending := rfl
    -- Whether a byte is pending has nothing to do with the cancellation.
    simp only [operate, takeInput, same]
    split
    · rfl
    · exact under_ask _ _
  | breakpoint =>
    have noted := (machine.record (.breakpoint pos)).under_setMode cancellation .debugging
    exact congrArg (proceed · rest) noted

/-- The console replies alike under any cancellation. -/
theorem under_answer (pos : Nat) (opcode : Opcode) (request : Command) :
    (machine.under cancellation).answer pos opcode request =
      (machine.answer pos opcode request).under cancellation := by
  cases request with
  | code => exact under_printLines _ _ _
  | mem => exact under_printLines _ _ _
  | info => exact under_printLine _ _ _
  | help => exact under_printLine _ _ _
  | next => rfl
  | exit => rfl

/-- What the line source answers is written down alike under any cancellation. -/
theorem under_recordEntry (entry : Entry) :
    (machine.under cancellation).recordEntry entry =
      (machine.recordEntry entry).under cancellation := by
  cases entry <;> rfl

end

/-- A move does not look at the cancellation: under every cancellation it does the same, apart from
the cancellation itself, and it does not bring one up by itself unless it ends the run. -/
def Unheeding (move : Machine → Machine) (machine : Machine) : Prop :=
  ∃ later : Cancellation → Cancellation,
    (∀ cancellation, move (machine.under cancellation) =
      (move machine).under (later cancellation)) ∧
    (later .never = .never ∨ (move machine).isHalted = true)

/-- A move that leaves the cancellation alone does not look at it. -/
theorem unheeding_of_under {move : Machine → Machine} {machine : Machine}
    (under : ∀ cancellation, move (machine.under cancellation) =
      (move machine).under cancellation) : Unheeding move machine :=
  ⟨id, under, .inl rfl⟩

/-- What comes before a move may leave the cancellation alone. -/
theorem Unheeding.after (before : Machine → Machine) {move : Machine → Machine} {machine : Machine}
    (unheeding : Unheeding move (before machine))
    (under : ∀ cancellation, before (machine.under cancellation) =
      (before machine).under cancellation) :
    Unheeding (fun machine => move (before machine)) machine := by
  obtain ⟨later, same, calm⟩ := unheeding
  exact ⟨later, fun cancellation => (congrArg move (under cancellation)).trans (same cancellation),
    calm⟩

/-- A move that is another one at this place looks at the cancellation as little as that one. -/
theorem Unheeding.congr {move other : Machine → Machine} {machine : Machine}
    (unheeding : Unheeding move machine)
    (same : ∀ cancellation, other (machine.under cancellation) =
      move (machine.under cancellation)) : Unheeding other machine := by
  -- The machine is itself under its own cancellation.
  have here : other machine = move machine := same machine.cancellation
  obtain ⟨later, moved, calm⟩ := unheeding
  exact ⟨later, fun cancellation => by rw [same, here, moved], by rw [here]; exact calm⟩

/-- Such a move leaves a run that nobody cancels uncancelled, unless it ends the run. -/
theorem Unheeding.calm {move : Machine → Machine} {machine : Machine}
    (unheeding : Unheeding move machine) (calm : machine.cancellation = .never)
    (running : (move machine).isHalted = false) : (move machine).cancellation = .never := by
  obtain ⟨later, same, kept⟩ := unheeding
  -- Nobody cancels the machine, so it is itself under that cancellation.
  have here : machine.under .never = machine := by rw [← calm]; rfl
  have moved := same .never
  rw [here] at moved
  rcases kept with kept | ended
  · exact (congrArg Machine.cancellation moved).trans kept
  · rw [running] at ended
    cases ended

/-- The start of an instruction may set off a cancellation, but does not look at it. -/
theorem unheeding_execute (machine : Machine) : Unheeding execute machine := by
  have calm : Cancellation.never.start (machine.steps + 1) = .never := by
    simp [Cancellation.start, Cancellation.never]
  cases code : machine.code with
  | done =>
    refine unheeding_of_under fun cancellation => ?_
    have same : (machine.under cancellation).code = .done := code
    simp only [execute, code, same]
  | op pos action rest =>
    -- The count of the instruction is all that the cancellation depends on.
    refine ⟨fun cancellation => cancellation.start (machine.steps + 1), fun cancellation => ?_,
      .inl calm⟩
    have same : (machine.under cancellation).code = .op pos action rest := code
    simp only [execute, code, same]
    exact under_operate (machine.begin pos (.basic action)) _ pos action rest
  | loop pos body rest =>
    refine ⟨fun cancellation => cancellation.start (machine.steps + 1), fun cancellation => ?_,
      .inl calm⟩
    have same : (machine.under cancellation).code = .loop pos body rest := code
    simp only [execute, code, same]
    rfl

/-- An input instruction does not look at the cancellation. -/
theorem unheeding_receiveInput (machine : Machine) (rest : Code) (entry : Entry) :
    Unheeding (receiveInput · rest entry) machine := by
  cases entry with
  | line text =>
    refine unheeding_of_under fun cancellation => ?_
    have same : (machine.under cancellation).inputMode = machine.inputMode := rfl
    simp only [receiveInput, same]
    split
    · rfl
    -- Only an empty line of line input makes the instruction do more than store a byte.
    · rfl
    · exact under_ask _ _
    · rfl
  | ended report => exact unheeding_of_under fun _ => rfl
  | failed reason => exact unheeding_of_under fun _ => rfl
  | cancelled =>
    exact ⟨fun cancellation => { cancellation with cancelled := true }, fun _ => rfl, .inr rfl⟩

/-- A line in the console does not look at the cancellation. -/
theorem unheeding_command (machine : Machine) (pos : Nat) (opcode : Opcode) (line : Bytes) :
    Unheeding (command · pos opcode line) machine := by
  have stopping (machine : Machine) : Unheeding (stop · pos opcode) machine :=
    unheeding_of_under fun cancellation => machine.under_stop cancellation pos opcode
  unfold command
  split
  · exact stopping machine
  -- The machine stops again behind some lines, or executes the next instruction.
  · split
    · exact (stopping _).after (printLine · _) fun cancellation =>
        machine.under_printLine cancellation _
    · exact unheeding_execute machine
    · exact (unheeding_execute _).after (setMode · _) fun cancellation =>
        machine.under_setMode cancellation _
    · exact (stopping _).after (answer · pos opcode _) fun cancellation =>
        machine.under_answer cancellation pos opcode _

/-- The console does not look at the cancellation. -/
theorem unheeding_receiveCommand (machine : Machine) (pos : Nat) (opcode : Opcode) (entry : Entry) :
    Unheeding (receiveCommand · pos opcode entry) machine := by
  cases entry with
  | line text => exact machine.unheeding_command pos opcode text
  | ended report =>
    exact (unheeding_execute _).after
      (fun machine => (machine.record (.consoleClosed pos)).setMode _)
      fun cancellation => (machine.record (.consoleClosed pos)).under_setMode cancellation _
  | failed reason => exact unheeding_of_under fun _ => rfl
  | cancelled =>
    exact ⟨fun cancellation => { cancellation with cancelled := true }, fun _ => rfl, .inr rfl⟩

/-- A machine that waits for a line does not look at the cancellation. -/
theorem unheeding_receive (machine : Machine) (entry : Entry) :
    Unheeding (receive · entry) machine := by
  have noted (cancellation : Cancellation) := machine.under_recordEntry cancellation entry
  have deaf : Unheeding (recordEntry · entry) machine := unheeding_of_under noted
  have console (pos : Nat) (opcode : Opcode) :
      Unheeding (fun machine => (machine.recordEntry entry).receiveCommand pos opcode entry)
        machine :=
    (unheeding_receiveCommand _ pos opcode entry).after (recordEntry · entry) noted
  have input (rest : Code) :
      Unheeding (fun machine => (machine.recordEntry entry).receiveInput rest entry) machine :=
    (unheeding_receiveInput _ rest entry).after (recordEntry · entry) noted
  cases status : machine.status with
  -- Who hears the entry depends on the status and the code.
  | ready => exact deaf.congr fun _ => by simp only [receive, under, status]
  | halted error => exact deaf.congr fun _ => by simp only [receive, under, status]
  | stopped =>
    cases code : machine.code with
    | done => exact deaf.congr fun _ => by simp only [receive, under, status, code]
    | op pos action rest =>
      exact (console pos (.basic action)).congr fun _ => by
        simp only [receive, under, status, code]
    | loop pos body rest =>
      exact (console pos .loop).congr fun _ => by
        simp only [receive, under, status, code]
  | asking =>
    cases code : machine.code with
    | done => exact deaf.congr fun _ => by simp only [receive, under, status, code]
    | op pos action rest =>
      exact (input rest).congr fun _ => by
        simp only [receive, under, status, code]
    | loop pos body rest => exact deaf.congr fun _ => by simp only [receive, under, status, code]

/-- A machine that waits for nobody looks at the cancellation only before a pass. -/
theorem unheeding_advance {machine : Machine} (ready : machine.status = .ready)
    (elsewhere : ¬ machine.AtCheck) : Unheeding advance machine := by
  have stopping (pos : Nat) (opcode : Opcode) : Unheeding (stop · pos opcode) machine :=
    unheeding_of_under fun cancellation => machine.under_stop cancellation pos opcode
  cases code : machine.code with
  | done =>
    cases loops : machine.loops with
    | nil =>
      have ending : Unheeding (finish · none) machine := unheeding_of_under fun _ => rfl
      exact ending.congr fun _ => by simp only [advance, under, code, loops]
    | cons innermost outer =>
      -- The loop is left, since it is not about to begin a pass.
      have zero : machine.tape.cell = 0 := by
        by_contra other
        exact elsewhere ⟨ready, code, by simp [loops], other⟩
      have leaving : Unheeding (fun machine : Machine =>
          { machine with code := innermost.rest, loops := outer }) machine :=
        unheeding_of_under fun _ => rfl
      exact leaving.congr fun _ => by simp only [advance, test, under, code, loops, zero, if_true]
  | op pos action rest =>
    by_cases debugging : machine.mode = .debugging
    · exact (stopping pos (.basic action)).congr fun _ => by
        simp only [advance, under, code, debugging, if_true]
    · exact machine.unheeding_execute.congr fun _ => by
        simp only [advance, under, code, debugging, if_false]
  | loop pos body rest =>
    by_cases debugging : machine.mode = .debugging
    · exact (stopping pos .loop).congr fun _ => by
        simp only [advance, under, code, debugging, if_true]
    · exact machine.unheeding_execute.congr fun _ => by
        simp only [advance, under, code, debugging, if_false]

/-- Before a pass a machine that nobody cancels begins the pass; under another cancellation it does
the same, or the run is over. -/
theorem advance_of_atCheck {machine : Machine} (calm : machine.cancellation = .never)
    (check : machine.AtCheck) (cancellation : Cancellation) :
    machine.advance.cancellation = .never ∧
      ∃ later, (machine.under cancellation).advance = machine.advance.under later ∨
        (machine.under cancellation).advance = (machine.under later).finish (some .cancelled) := by
  -- The one who is not cancelled enters the body; the other one asks first.
  obtain ⟨-, code, around, nonzero⟩ := check
  obtain ⟨innermost, outer, loops⟩ := List.exists_cons_of_ne_nil around
  have begun : machine.advance = { machine with code := innermost.body } := by
    simp only [advance, code, loops, test_of_calm calm, nonzero, if_false]
  have tested : (machine.under cancellation).advance =
      (machine.under cancellation).test innermost outer := by
    simp only [advance, under, code, loops]
  refine ⟨by rw [begun]; exact calm, cancellation.check, ?_⟩
  have other : (machine.under cancellation).tape.cell ≠ 0 := nonzero
  rw [tested, begun, test, if_neg other]
  dsimp only
  split
  · exact .inr rfl
  · exact .inl rfl

end Machine

namespace Session

/-- The same session under another cancellation. -/
def under (session : Session) (cancellation : Cancellation) : Session :=
  { session with machine := session.machine.under cancellation }

variable {session : Session}

/-- One move of a session that nobody cancels, and the same move under a cancellation: both come to
the same, or the second one is cut off before a pass. -/
theorem step_under (calm : session.machine.cancellation = .never) (cancellation : Cancellation) :
    (session.step.machine.isHalted = false → session.step.machine.cancellation = .never) ∧
      ∃ later, (session.under cancellation).step = session.step.under later ∨
        session.machine.AtCheck ∧ (session.under cancellation).step =
          ⟨(session.machine.under later).finish (some .cancelled), session.script⟩ := by
  -- What the line source hands out is the same under every cancellation.
  have handed : (session.handOver.machine.isHalted = false →
      session.handOver.machine.cancellation = .never) ∧
      ∃ later, (session.under cancellation).handOver = session.handOver.under later := by
    have unheeding := session.machine.unheeding_receive
    unfold handOver
    cases script : session.script with
    | nil =>
      obtain ⟨later, same, -⟩ := unheeding .endOfInput
      exact ⟨(unheeding .endOfInput).calm calm, later cancellation, by
        simp only [under, script, same cancellation]⟩
    | cons entry rest =>
      obtain ⟨later, same, -⟩ := unheeding entry
      exact ⟨(unheeding entry).calm calm, later cancellation, by
        simp only [under, script, same cancellation]⟩
  have status : (session.under cancellation).machine.status = session.machine.status := rfl
  unfold step
  rw [status]
  split
  · rename_i ready
    -- A machine that is ready looks at the cancellation only where a pass may begin.
    by_cases check : session.machine.AtCheck
    · obtain ⟨still, later, same | cut⟩ :=
        Machine.advance_of_atCheck calm check cancellation
      · exact ⟨fun _ => still, later, .inl (by simp only [under, same])⟩
      · exact ⟨fun _ => still, later, .inr ⟨check, by simp only [under, cut]⟩⟩
    · have unheeding := Machine.unheeding_advance ready check
      have still := unheeding.calm calm
      obtain ⟨later, same, -⟩ := unheeding
      exact ⟨still, later cancellation, .inl (by simp only [under, same])⟩
  · exact ⟨handed.1, handed.2.imp fun _ same => .inl same⟩
  · exact ⟨handed.1, handed.2.imp fun _ same => .inl same⟩
  · exact ⟨fun _ => calm, cancellation, .inl rfl⟩

/-- A session that nobody cancels, and the same session under a cancellation, after the same number
of moves: they have come to the same, or the second one has been cut off before a pass. -/
theorem iterate_under (calm : session.machine.cancellation = .never) (cancellation : Cancellation)
    (moves : Nat) :
    ((step^[moves] session).machine.isHalted = false →
      (step^[moves] session).machine.cancellation = .never) ∧
    ((∃ later, step^[moves] (session.under cancellation) = (step^[moves] session).under later) ∨
      ∃ check, check < moves ∧ (step^[check] session).machine.AtCheck ∧
        ∃ later, step^[moves] (session.under cancellation) =
          ⟨((step^[check] session).machine.under later).finish (some .cancelled),
            (step^[check] session).script⟩) := by
  -- Both runs go on in step until the cancelled one is cut off; from then on only the other moves.
  induction moves with
  | zero => exact ⟨fun _ => calm, .inl ⟨cancellation, rfl⟩⟩
  | succ moves ih =>
    obtain ⟨kept, before⟩ := ih
    simp only [Function.iterate_succ_apply']
    rcases before with ⟨later, same⟩ | ⟨check, early, pass, later, cut⟩
    · rw [same]
      cases halted : (step^[moves] session).machine.isHalted with
      | false =>
        obtain ⟨still, next, stays | ⟨pass, cut⟩⟩ := step_under (kept halted) later
        · exact ⟨still, .inl ⟨next, stays⟩⟩
        · exact ⟨still, .inr ⟨moves, Nat.lt_succ_self _, pass, next, cut⟩⟩
      | true =>
        -- Both runs are over.
        have other : ((step^[moves] session).under later).machine.isHalted = true := halted
        rw [step_of_halted halted, step_of_halted other]
        exact ⟨kept, .inl ⟨later, rfl⟩⟩
    · -- The run that has been cut off is over, while the other one goes on.
      refine ⟨?_, .inr ⟨check, by omega, pass, later, ?_⟩⟩
      · cases halted : (step^[moves] session).machine.isHalted with
        | false => exact (step_under (kept halted) cancellation).1
        | true =>
          rw [step_of_halted halted]
          exact kept
      · rw [cut]
        exact step_of_halted rfl

/-- A run that nobody cancels never ends as a cancelled one. -/
theorem error_ne_cancelled (calm : session.machine.cancellation = .never)
    (running : session.machine.isHalted = false) (moves : Nat) :
    (step^[moves] session).machine.error? ≠ some .cancelled := by
  induction moves with
  | zero => simp [Machine.error?_of_running running]
  | succ moves ih =>
    rw [Function.iterate_succ_apply']
    cases halted : (step^[moves] session).machine.isHalted with
    | false =>
      have still := (iterate_under calm .never moves).1 halted
      exact (outcome_step halted).error_ne_cancelled still
    | true =>
      rw [step_of_halted halted]
      exact ih

/-- What a cancelled run tells and brings to its sink is a beginning of what the other run tells and
puts out. -/
theorem told_iterate_under (calm : session.machine.cancellation = .never)
    (cancellation : Cancellation) (moves : Nat) :
    (step^[moves] (session.under cancellation)).machine.told Event.watched <+:
        (step^[moves] session).machine.told Event.watched ∧
      (step^[moves] (session.under cancellation)).machine.told Event.sunk <+:
        (step^[moves] session).machine.emitted := by
  obtain ⟨-, ⟨later, same⟩ | ⟨check, early, -, later, cut⟩⟩ :=
    iterate_under calm cancellation moves
  · rw [same]
    exact ⟨List.prefix_refl _, List.prefix_append _ _⟩
  · -- The end of the cancelled run tells nothing and puts out nothing new.
    have grown := session.grows_of_le (Nat.le_of_lt early)
    generalize (step^[check] session).machine = stopped at cut grown
    have ended : ((stopped.under later).finish (some .cancelled)).emitted = stopped.emitted := by
      rw [Machine.finish, Machine.emitted_record _ rfl]
      exact (stopped.under later).emitted_flush_eq
    rw [cut]
    constructor
    · rw [Machine.told_finish _ _ (fun _ => rfl) fun _ _ _ _ _ => rfl]
      exact grown.told_extends Event.watched
    · have sunk : ((stopped.under later).finish (some .cancelled)).told Event.sunk <+:
          stopped.emitted := by
        rw [← ended]
        exact List.prefix_append _ _
      exact sunk.trans grown.emitted_extends

/-- Once the other run is over, what the cancelled run brings to its sink is a beginning of what the
other run has brought to its own. -/
theorem sunk_iterate_under (calm : session.machine.cancellation = .never)
    (running : session.machine.isHalted = false) {room : Option Nat}
    (measured : session.machine.Measured room) (cancellation : Cancellation) (moves : Nat)
    {later : Nat} (halted : (step^[later] session).machine.isHalted = true) :
    (step^[moves] (session.under cancellation)).machine.told Event.sunk <+:
      (step^[later] session).machine.told Event.sunk := by
  -- A run that is over puts out nothing more, so it does not matter which run is longer.
  have sent := (told_iterate_under calm cancellation moves).2
  have grown : (step^[moves] session).machine.emitted <+:
      (step^[later] session).machine.emitted := by
    rcases Nat.le_total moves later with le | le
    · exact (session.grows_of_le le).emitted_extends
    · obtain ⟨rest, rfl⟩ := Nat.exists_eq_add_of_le' le
      have still : step^[rest + later] session = step^[later] session := by
        rw [Function.iterate_add_apply, Function.iterate_fixed (step_of_halted halted)]
      simp only [still, List.prefix_refl]
  have same : session.machine.Grows (session.under cancellation).machine :=
    Machine.Grows.refl.other rfl rfl
  exact Machine.sunk_prefix_of_settled ((same.trans (grows_iterate _ moves)).measured measured)
    ((grows_iterate _ later).measured measured) (settled_iterate running later halted)
    (sent.trans grown)

end Session

/-- A cancellation only cuts a run short. After any number of moves the cancelled run has told a
beginning of what the run without the cancellation has told, and its sink has taken a beginning of
what that run has put out, and of what its sink has taken once it is over. A run that ends as a
cancelled one has stopped before a pass of a loop on a cell that is not zero, and one that ends
otherwise is the run without the cancellation. -/
theorem cancellation_cuts_short (blueprint : Blueprint) (cancellation : Cancellation)
    (script : List Entry) (moves : Nat) :
    let whole moves :=
      Session.run moves ⟨{ blueprint with cancellation := .never }.machine, script⟩
    let cut := Session.run moves ⟨{ blueprint with cancellation := cancellation }.machine, script⟩
    cut.machine.told Event.watched <+: (whole moves).machine.told Event.watched ∧
    cut.machine.told Event.sunk <+: (whole moves).machine.emitted ∧
    (∀ later, (whole later).machine.isHalted = true →
      cut.machine.told Event.sunk <+: (whole later).machine.told Event.sunk) ∧
    (cut.machine.error? = some .cancelled →
      ∃ check, check < moves ∧ (whole check).machine.AtCheck ∧
        ∃ last, cut = ⟨((whole check).machine.under last).finish (some .cancelled),
          (whole check).script⟩) ∧
    (cut.machine.isHalted = true → cut.machine.error? ≠ some .cancelled →
      ∃ last, cut = (whole moves).under last) := by
  intro whole cut
  let session : Session := ⟨{ blueprint with cancellation := .never }.machine, script⟩
  have calm : session.machine.cancellation = .never := rfl
  have whole_eq (moves : Nat) : whole moves = Session.step^[moves] session :=
    Session.run_eq_iterate moves session
  have cut_eq : cut = Session.step^[moves] (session.under cancellation) :=
    Session.run_eq_iterate moves (session.under cancellation)
  have told := Session.told_iterate_under calm cancellation moves
  have alike := (Session.iterate_under calm cancellation moves).2
  simp only [whole_eq, cut_eq]
  refine ⟨told.1, told.2, ?_, ?_, ?_⟩
  · intro later halted
    exact Session.sunk_iterate_under calm rfl { blueprint with cancellation := .never }.measured
      cancellation moves halted
  · intro error
    rcases alike with ⟨last, same⟩ | ends
    · rw [same] at error
      exact absurd error (Session.error_ne_cancelled calm rfl moves)
    · exact ends
  · intro _ other
    rcases alike with same | ⟨check, -, -, last, cut⟩
    · exact same
    · rw [cut] at other
      exact absurd rfl other

/-- An empty loop that is entered with a non-zero cell never ends. -/
theorem Session.step_of_emptyLoop {session : Session} (calm : session.machine.cancellation = .never)
    (ready : session.machine.status = .ready) (code : session.machine.code = .done)
    {rest : Code} {outer : List ActiveLoop} (loops : session.machine.loops = ⟨.done, rest⟩ :: outer)
    (nonzero : session.machine.tape.cell ≠ 0) : session.step = session := by
  have tested : session.machine.advance = session.machine.test ⟨.done, rest⟩ outer := by
    simp only [Machine.advance, code, loops]
  have begun : session.machine.advance = session.machine := by
    rw [tested, Machine.test_of_calm calm, if_neg nonzero, ← code]
  simp only [step, ready, begun]

/-- A run that never ends may keep its output in the buffer for ever: the cancelled run brings the
byte to its sink at its end, and the other one never does. -/
theorem cancelled_sunk_exceeds :
    let program : Program := ⟨.op 0 .increment (.op 1 .output (.loop 2 .done .done)), 4, 1⟩
    let blueprint : Blueprint := { Blueprint.ofProgram program with tapeLength := 1 }
    let whole moves := Session.run moves ⟨{ blueprint with cancellation := .never }.machine, []⟩
    let cut := Session.run 4
      ⟨{ blueprint with cancellation := { Cancellation.never with cancelled := true } }.machine, []⟩
    compile (utf8 "+.[]") = .ok program ∧ cut.machine.error? = some .cancelled ∧
      ∀ moves, ¬ cut.machine.told Event.sunk <+: (whole moves).machine.told Event.sunk := by
  intro program blueprint whole cut
  have compiled : compile (utf8 "+.[]") = .ok program := rfl
  have cancelled : cut.machine.error? = some .cancelled := by decide +kernel
  have sunk : cut.machine.told Event.sunk = [1] := by decide +kernel
  refine ⟨compiled, cancelled, fun moves => ?_⟩
  let session : Session := ⟨blueprint.machine, []⟩
  have whole_eq : whole moves = Session.step^[moves] session := Session.run_eq_iterate moves session
  -- From the third move on the machine does nothing but begin another pass.
  have around : (Session.step^[3] session).machine.loops = [⟨.done, .done⟩] := by decide +kernel
  have looping : Session.step (Session.step^[3] session) = Session.step^[3] session :=
    Session.step_of_emptyLoop (by decide +kernel) (by decide +kernel) (by decide +kernel) around
      (by decide +kernel)
  rw [whole_eq, sunk]
  rcases Nat.lt_or_ge moves 3 with few | many
  · obtain rfl | rfl | rfl : moves = 0 ∨ moves = 1 ∨ moves = 2 := by omega
    all_goals decide +kernel
  · obtain ⟨rest, rfl⟩ := Nat.exists_eq_add_of_le' many
    rw [Function.iterate_add_apply, Function.iterate_fixed looping]
    decide +kernel

end TapeMachine
