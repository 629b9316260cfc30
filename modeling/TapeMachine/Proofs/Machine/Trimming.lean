import TapeMachine.Proofs.Lint.Cancelling
import TapeMachine.Proofs.Lockstep
import TapeMachine.Proofs.Machine.Alike
import TapeMachine.Proofs.Machine.Tape

/-! Pairs that undo each other have no effect: a program without the pairs that the lint reports
does what the program does, as long as that one does not leave its tape. -/

namespace TapeMachine

/-- The second operation of a pair undoes what the first one has done. -/
theorem Op.act_of_cancels {first second : Op} (cancels : first.cancels second = true)
    {tape moved : Tape} (inside : tape.pointer < tape.length) (acted : first.act tape = .ok moved) :
    second.act moved = .ok tape := by
  have again (value : UInt8) : (tape.write value).write tape.cell = tape := by
    rw [Tape.write_write, Tape.write_cell]
  cases first <;> cases second <;> cases cancels
  · -- To the right and back.
    simp only [act, Tape.moveRight] at acted
    split at acted
    · cases acted
      simp [act, Tape.moveLeft]
    · cases acted
  · -- To the left and back: the pointer was inside the tape before.
    simp only [act, Tape.moveLeft] at acted
    split at acted
    · rename_i positive
      cases acted
      have back : tape.pointer - 1 + 1 = tape.pointer := by omega
      simp only [Tape.length] at inside
      simp [act, Tape.moveRight, Tape.length, back, inside]
    · cases acted
  · -- The cells are counted modulo 256, so one more and one less always meet.
    cases acted
    simp only [act, Tape.cell_write inside, UInt8.add_sub_cancel, again]
  · cases acted
    simp only [act, Tape.cell_write inside, UInt8.sub_add_cancel, again]

/-- Operations that cancel each other work on the tape alone. -/
theorem Op.isOnTape_of_cancels {first second : Op} (cancels : first.cancels second = true) :
    first.isOnTape = true ∧ second.isOnTape = true := by
  cases first <;> cases second <;> first | exact ⟨rfl, rfl⟩ | cases cancels

/-- Two loops differ in nothing but positions, and pairs that only the first one has. -/
structure ActiveLoop.Trims (loop short : ActiveLoop) : Prop where
  inside : loop.body.Trims short.body
  behind : loop.rest.Trims short.rest

namespace Machine

/-- Whether the run ended with the data pointer about to leave the tape. -/
def Faulted (machine : Machine) : Prop :=
  ∃ pos opcode place fault, machine.status = .halted (some (.pointer pos opcode place fault))

/-- A machine without some pairs is as far as the machine with them. Neither is in the debugger, and
nobody cancels them. -/
structure Abreast (whole short : Machine) : Prop where
  alike : Alike whole short
  loops : List.Forall₂ ActiveLoop.Trims whole.loops short.loops
  running : whole.mode = .running
  calm : whole.cancellation = .never
  inside : whole.tape.pointer < whole.tape.length

/-- How the two machines stand to each other between the moves that both make. -/
inductive Paired (whole short : Machine) : Prop
  /-- Both go on with the same code but for the pairs. -/
  | ready (abreast : Abreast whole short) (status : whole.status = .ready)
      (code : whole.code.Trims short.code)
  /-- Both wait for a line of input. -/
  | asking (abreast : Abreast whole short) (status : whole.status = .asking) {pos place : Nat}
      {rest shortRest : Code} (code : whole.code = .op pos .input rest)
      (shortCode : short.code = .op place .input shortRest) (behind : rest.Trims shortRest)
  /-- Both runs are over. -/
  | ended (alike : Alike whole short) (halted : whole.isHalted = true)
  /-- The first machine has left its tape. -/
  | fault (faulted : whole.Faulted)

/-- Apart from the walk an operation on the tape changes the tape and nothing else. -/
theorem essence_acted {machine : Machine} (calm : machine.cancellation = .never) (pos : Nat)
    (action : Op) (tape : Tape) (rest : Code) :
    (machine.acted pos action tape rest).essence =
      { machine.essence with tape := tape, status := .ready } := by
  rw [← essence_begin calm pos (.basic action)]
  rfl

section

variable {machine : Machine} (running : machine.mode = .running) {action : Op}
  (quiet : action.isOnTape = true) {pos : Nat} {rest : Code}
  (code : machine.code = .op pos action rest)
include running quiet code

/-- Outside the debugger such an operation only changes the tape. -/
theorem advance_of_act {moved : Tape} (acted : action.act machine.tape = .ok moved) :
    machine.advance = machine.acted pos action moved rest := by
  have outside : ¬ machine.mode = .debugging := by simp [running]
  simp only [advance, execute, code, outside, if_false]
  cases action <;> cases quiet
  -- Four operations work on the tape alone; two of them move the pointer.
  · simp only [operate, move, show (machine.begin pos _).tape.moveRight = .ok moved from acted]
    rfl
  · simp only [operate, move, show (machine.begin pos _).tape.moveLeft = .ok moved from acted]
    rfl
  · cases acted
    rfl
  · cases acted
    rfl

/-- An operation that cannot be done to the tape ends the run. -/
theorem advance_of_fault {fault : PointerFault} (acted : action.act machine.tape = .error fault) :
    machine.advance.Faulted := by
  have outside : ¬ machine.mode = .debugging := by simp [running]
  simp only [advance, execute, code, outside, if_false]
  cases action <;> cases quiet
  · simp only [operate, move, show (machine.begin pos _).tape.moveRight = .error fault from acted]
    exact ⟨_, _, _, _, rfl⟩
  · simp only [operate, move, show (machine.begin pos _).tape.moveLeft = .error fault from acted]
    exact ⟨_, _, _, _, rfl⟩
  · cases acted
  · cases acted

end

namespace Abreast

variable {whole short : Machine} {rest shortRest : Code}

section

variable (abreast : Abreast whole short)
include abreast

/-- Machines that are abreast are linked. -/
theorem linked : Linked whole short := ⟨abreast.alike, abreast.running, abreast.calm⟩

/-- Whatever both machines do alike, they stand to each other as before. -/
theorem paired {after shortAfter : Machine}
    (joint : Joint whole short rest shortRest after shortAfter) (behind : rest.Trims shortRest) :
    Paired after shortAfter := by
  cases joint with
  | goesOn linked ready code shortCode loops shortLoops near =>
    refine .ready ⟨linked.alike, ?_, linked.running, linked.calm, near.inside abreast.inside⟩
      ready ?_
    · rw [loops, shortLoops]
      exact abreast.loops
    · rw [code, shortCode]
      exact behind
  | waits linked asking code shortCode loops shortLoops tape =>
    refine .asking ⟨linked.alike, ?_, linked.running, linked.calm, ?_⟩ asking code shortCode behind
    · rw [loops, shortLoops]
      exact abreast.loops
    · rw [tape]
      exact abreast.inside
  | ended alike halted => exact .ended alike halted
  -- The two errors name different positions, but this is the end that is left out.
  | faults alike status shortStatus => exact .fault ⟨_, _, _, _, status⟩

/-- At the end of a sequence both machines test the same loop, or end their runs. -/
theorem advance_done (ready : whole.status = .ready) (code : whole.code = .done)
    (shortCode : short.code = .done) : Paired whole.advance short.advance := by
  have around := abreast.loops
  simp only [Machine.advance, code, shortCode]
  -- The loops around both sequences are the same but for pairs.
  generalize loops : whole.loops = enclosing at around
  generalize shortLoops : short.loops = shortEnclosing at around
  cases around with
  | nil => exact .ended (abreast.alike.finish none) rfl
  | @cons innermost shortInnermost outer shortOuter trims outside =>
    have cell : short.tape.cell = whole.tape.cell := by rw [abreast.alike.tape]
    dsimp only
    rw [test_of_calm abreast.calm, test_of_calm abreast.linked.otherCalm, cell]
    split
    · exact .ready { abreast with
        alike := abreast.alike.placed innermost.rest shortInnermost.rest outer shortOuter
        loops := outside } ready trims.behind
    · rw [loops, shortLoops]
      exact .ready { abreast with
        alike := abreast.alike.placed innermost.body shortInnermost.body _ _
        loops := .cons trims outside } ready trims.inside

/-- A loop of both programs is entered by both machines. -/
theorem advance_loop {pos place : Nat} {body shortBody : Code} (inside : body.Trims shortBody)
    (code : whole.code = .loop pos body rest)
    (shortCode : short.code = .loop place shortBody shortRest) (behind : rest.Trims shortRest) :
    Paired whole.advance short.advance := by
  have linked := abreast.linked
  have entered := linked.entered pos place (⟨body, rest⟩ :: whole.loops)
    (⟨shortBody, shortRest⟩ :: short.loops)
  rw [advance_of_loop linked.running code, advance_of_loop linked.otherRunning shortCode]
  exact .ready ⟨entered.alike, .cons ⟨inside, behind⟩ abreast.loops, entered.running, entered.calm,
    abreast.inside⟩ rfl .done

end

/-- The machine with the pairs executes one of them, and is where the other one is all the time. -/
theorem advance_pair (abreast : Abreast whole short) (ready : whole.status = .ready)
    {pos next : Nat} {first second : Op} (cancels : first.cancels second = true)
    (code : whole.code = .op pos first (.op next second rest)) (behind : rest.Trims short.code) :
    whole.advance.Faulted ∨
      whole.advance.status = .ready ∧ Paired whole.advance.advance short := by
  obtain ⟨quiet, alsoQuiet⟩ := Op.isOnTape_of_cancels cancels
  cases acted : first.act whole.tape with
  -- The first operation of the pair may leave the tape; the second one only leads back.
  | error fault => exact .inl (advance_of_fault abreast.running quiet code acted)
  | ok moved =>
    right
    have undone := Op.act_of_cancels cancels abreast.inside acted
    let middle := whole.acted pos first moved (.op next second rest)
    have calm : middle.cancellation = .never := cancellation_begin abreast.calm pos (.basic first)
    have running : middle.mode = .running := abreast.running
    have back : middle.advance = middle.acted next second whole.tape rest :=
      advance_of_act running alsoQuiet rfl undone
    rw [advance_of_act abreast.running quiet code acted, back]
    refine ⟨rfl, .ready ⟨?_, abreast.loops, abreast.running,
      cancellation_begin calm next (.basic second), abreast.inside⟩ rfl behind⟩
    -- The tape is what it was before the pair.
    rw [Alike, essence_acted calm, essence_acted abreast.calm, ← abreast.alike, ← ready]
    rfl

end Abreast

end Machine

namespace Session

variable {whole short : Session}

/-- The machines stand alike, and their line sources hold the same. -/
structure Paired (whole short : Session) : Prop where
  machines : Machine.Paired whole.machine short.machine
  script : whole.script = short.script

namespace Paired

/-- Where both make a move, both go on. -/
theorem together (ready : whole.machine.status = .ready)
    (shortReady : short.machine.status = .ready) (script : whole.script = short.script)
    (next : Machine.Paired whole.machine.advance short.machine.advance) :
    ∃ i j, 0 < i ∧ Paired (step^[i] whole) (step^[j] short) := by
  refine ⟨1, 1, Nat.one_pos, ?_⟩
  rw [Function.iterate_one, step_of_ready ready, step_of_ready shortReady]
  exact ⟨next, script⟩

/-- From one place where both machines stand alike to the next one. A pair takes two moves of the
first machine and none of the other. -/
theorem progress (paired : Paired whole short) (running : ¬ whole.machine.isHalted = true) :
    ∃ i j, 0 < i ∧ Paired (step^[i] whole) (step^[j] short) := by
  obtain ⟨machines, script⟩ := paired
  -- The two next instructions are compared by the way in which the two sequences differ.
  cases machines with
  | ready abreast ready code =>
    have shortReady : short.machine.status = .ready := abreast.alike.status ▸ ready
    generalize here : whole.machine.code = wholeCode at code
    generalize there : short.machine.code = shortCode at code
    cases code with
    | done => exact together ready shortReady script (abreast.advance_done ready here there)
    | op proper behind =>
      have joint := abreast.linked.advance proper here there
      exact together ready shortReady script (abreast.paired joint behind)
    | loop inside behind =>
      exact together ready shortReady script (abreast.advance_loop inside here there behind)
    | pair cancels behind =>
      -- The other machine waits in front of what follows the pair.
      rw [← there] at behind
      rcases abreast.advance_pair ready cancels here behind with faulted | ⟨still, next⟩
      · refine ⟨1, 0, Nat.one_pos, ?_⟩
        rw [Function.iterate_one, step_of_ready ready]
        exact ⟨.fault faulted, script⟩
      · refine ⟨2, 0, Nat.two_pos, ?_⟩
        rw [Function.iterate_succ_apply, Function.iterate_one, step_of_ready ready,
          step_of_ready still]
        exact ⟨next, script⟩
  | asking abreast asking code shortCode behind =>
    have shortAsking : short.machine.status = .asking := abreast.alike.status ▸ asking
    refine ⟨1, 1, Nat.one_pos, ?_⟩
    rw [Function.iterate_one, step_of_asking asking, step_of_asking shortAsking, script]
    exact ⟨abreast.paired (abreast.linked.receive asking code shortCode _) behind, rfl⟩
  | ended alike halted => exact absurd halted running
  | fault faulted =>
    obtain ⟨pos, opcode, place, fault, status⟩ := faulted
    simp [Machine.isHalted, status] at running

/-- A run that ends is followed to its end by the run without the pairs. -/
theorem atEnd (paired : Paired whole short) {moves : Nat}
    (halted : (step^[moves] whole).machine.isHalted = true) :
    ∃ fewer, Paired (step^[moves] whole) (step^[fewer] short) := by
  have still (session : Session) (halted : session.machine.isHalted = true) :
      session.step = session := step_of_halted halted
  exact exists_related_end still (fun _ _ paired running => paired.progress running) moves whole
    short paired halted

end Paired

end Session

/-- Fresh machines with and without the pairs stand alike. -/
theorem Blueprint.paired (blueprint : Blueprint) (outside : blueprint.debugging = false)
    (calm : blueprint.cancellation = .never) (positive : 1 ≤ blueprint.tapeLength) {short : Program}
    (trims : blueprint.program.code.Trims short.code) (script : List Entry) :
    Session.Paired ⟨blueprint.machine, script⟩
      ⟨{ blueprint with program := short }.machine, script⟩ := by
  have inside := Tape.blank_inside (show 0 < blueprint.tapeLength.toNat by omega)
  refine ⟨.ready ⟨rfl, .nil, ?_, calm, inside⟩ rfl trims, rfl⟩
  simp only [machine, outside, Bool.false_eq_true, if_false]

/-- Leaving out the pairs that the lint reports preserves a program without breakpoints. What is
left compiles, and whenever a run outside the debugger that nobody cancels ends without leaving the
tape, the run of what is left ends with the same error or none, the same tape and the same bytes in
the sink, after the same prompts, answers of the line source, inputs, outputs and deliveries in the
same order. -/
theorem trimming_preserves_run {source : Bytes} {program : Program}
    (compiled : compile source = .ok program) (plain : ascii '!' ∉ source) :
    ∃ short, compile (withoutCancelling program) = .ok short ∧
      ∀ blueprint : Blueprint, blueprint.program = program → blueprint.debugging = false →
        blueprint.cancellation = .never → 1 ≤ blueprint.tapeLength → ∀ script moves error,
          let whole := Session.run moves ⟨blueprint.machine, script⟩
          whole.machine.status = .halted error →
          (∀ pos opcode place fault, error ≠ some (.pointer pos opcode place fault)) →
          ∃ fewer,
            let trimmed := Session.run fewer ⟨{ blueprint with program := short }.machine, script⟩
            trimmed.machine.status = .halted error ∧
            trimmed.machine.tape = whole.machine.tape ∧
            trimmed.machine.told Event.sunk = whole.machine.told Event.sunk ∧
            trimmed.machine.events.filter Event.isOutward =
              whole.machine.events.filter Event.isOutward ∧
            trimmed.script = whole.script := by
  obtain ⟨short, found, trims⟩ := compile_withoutCancelling compiled plain
  refine ⟨short, found, ?_⟩
  rintro blueprint rfl outside calm positive script moves error whole ended fine
  have whole_eq : whole = Session.step^[moves] ⟨blueprint.machine, script⟩ :=
    Session.run_eq_iterate moves _
  have halted : (Session.step^[moves] ⟨blueprint.machine, script⟩).machine.isHalted = true := by
    rw [← whole_eq]
    simp [Machine.isHalted, ended]
  have start := blueprint.paired outside calm positive trims script
  obtain ⟨fewer, paired⟩ := start.atEnd halted
  rw [← whole_eq, ← Session.run_eq_iterate] at paired
  obtain ⟨last, left⟩ := paired
  -- Two related ends have everything but the walk in common.
  refine ⟨fewer, ?_⟩
  -- Of the ways in which the machines may stand to each other only one is left.
  cases last with
  | ready _ status => rw [ended] at status; cases status
  | asking _ status => rw [ended] at status; cases status
  | fault faulted =>
    obtain ⟨pos, opcode, place, fault, status⟩ := faulted
    rw [ended] at status
    cases status
    exact absurd rfl (fine pos opcode place fault)
  | ended alike =>
    refine ⟨alike.status ▸ ended, alike.tape.symm, ?_, ?_, left.symm⟩
    · have silent (event : Event) (inward : event.isOutward = false) : event.sunk = [] := by
        cases event <;> first | rfl | cases inward
      rw [← Machine.told_essence _ silent, ← alike, Machine.told_essence _ silent]
    · have journal := alike.same (fun machine => machine.journal.filter Event.isOutward)
        fun machine => by simp [Machine.essence]
      rw [Machine.events, Machine.events, List.filter_reverse, List.filter_reverse, ← journal]

/-- One pair is left out in front of a loop that puts a byte out. -/
theorem trimming_preserves_run_loop :
    let program : Program := ⟨.op 0 .increment (.op 1 .moveRight (.op 2 .increment (.op 3 .decrement
      (.op 4 .moveLeft (.loop 5 (.op 6 .decrement (.op 7 .output .done)) .done))))), 9, 1⟩
    let blueprint : Blueprint := { Blueprint.ofProgram program with tapeLength := 2 }
    compile (utf8 "+>+-<[-.]") = .ok program ∧ withoutCancelling program = utf8 "+><[-.]" ∧
      ∃ short fewer, compile (utf8 "+><[-.]") = .ok short ∧
        let trimmed := Session.run fewer ⟨{ blueprint with program := short }.machine, []⟩
        trimmed.machine.status = .halted none ∧ trimmed.machine.told Event.sunk = [0] := by
  intro program blueprint
  have compiled : compile (utf8 "+>+-<[-.]") = .ok program := rfl
  have left : withoutCancelling program = utf8 "+><[-.]" := by
    rw [withoutCancelling_eq compiled]
    decide +kernel
  obtain ⟨short, found, runs⟩ := trimming_preserves_run compiled (by decide)
  have ended : (Session.run 12 ⟨blueprint.machine, []⟩).machine.status = .halted none := by
    decide +kernel
  have sunk : (Session.run 12 ⟨blueprint.machine, []⟩).machine.told Event.sunk = [0] := by
    decide +kernel
  obtain ⟨fewer, status, -, output, -⟩ :=
    runs blueprint rfl rfl rfl (by decide) [] 12 none ended (by simp)
  rw [left] at found
  exact ⟨compiled, left, short, fewer, found, status, output.trans sunk⟩

end TapeMachine
