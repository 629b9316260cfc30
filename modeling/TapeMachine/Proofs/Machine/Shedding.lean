import TapeMachine.Proofs.Lint.Shed
import TapeMachine.Proofs.Lockstep
import TapeMachine.Proofs.Machine.Alike
import TapeMachine.Proofs.Machine.BlankTape

/-! Dead loops never run: no run comes to an instruction inside one of them, and a program without
its dead loops does what the program does. -/

namespace TapeMachine

/-- The error without the position that it names. -/
def RunError.unplaced : RunError → RunError
  | pointer _ opcode place fault => pointer 0 opcode place fault
  | error => error

/-- Two loops differ in nothing but positions. -/
structure ActiveLoop.Copies (loop copy : ActiveLoop) : Prop where
  inside : loop.body.Copies copy.body
  behind : loop.rest.Copies copy.rest

namespace Machine

/-- Two runs have ended alike, with errors that differ at most in the position that they name. -/
structure SameEnd (whole short : Machine) (error shortError : Option RunError) : Prop where
  status : whole.status = .halted error
  shortStatus : short.status = .halted shortError
  unplaced : shortError.map RunError.unplaced = error.map RunError.unplaced
  alike : Alike { whole with status := .ready } { short with status := .ready }

/-- A machine with dead loops and one without are in front of the same instruction, or the first one
is in front of a dead loop, on tapes that are still blank. -/
structure Unspent (whole short : Machine) : Prop where
  linked : Linked whole short
  ready : whole.status = .ready
  outside : whole.loops = []
  shortOutside : short.loops = []
  blank : whole.tape.IsBlank

/-- How a machine with dead loops stands to one without. -/
inductive Shedding (whole short : Machine) : Prop
  /-- The dead loops are still to be skipped. -/
  | unspent (unspent : Unspent whole short) (code : whole.code.Sheds short.code)
  /-- Both go on with the same code. -/
  | same (linked : Linked whole short) (ready : whole.status = .ready)
      (loops : List.Forall₂ ActiveLoop.Copies whole.loops short.loops)
      (code : whole.code.Copies short.code)
  /-- Both wait for a line of input. -/
  | asking (linked : Linked whole short) (asking : whole.status = .asking)
      (loops : List.Forall₂ ActiveLoop.Copies whole.loops short.loops) {pos place : Nat}
      {rest shortRest : Code} (code : whole.code = .op pos .input rest)
      (shortCode : short.code = .op place .input shortRest) (behind : rest.Copies shortRest)
  /-- Both runs are over. -/
  | ended {error shortError : Option RunError} (same : SameEnd whole short error shortError)

section

variable {whole short after shortAfter : Machine} {rest shortRest : Code}

/-- Machines whose runs are over alike are in step. -/
theorem Alike.shedding (alike : Alike whole short) (halted : whole.isHalted = true) :
    Shedding whole short := by
  obtain ⟨error, status⟩ := exists_status_of_halted halted
  exact .ended ⟨status, alike.status ▸ status, rfl, alike.withStatus .ready⟩

/-- Both data pointers have been about to leave their tapes. -/
theorem Shedding.faults
    (alike : Alike { whole with status := .ready } { short with status := .ready })
    {pos place : Nat} {opcode : Opcode} {pointer : Nat} {fault : PointerFault}
    (status : whole.status = .halted (some (.pointer pos opcode pointer fault)))
    (shortStatus : short.status = .halted (some (.pointer place opcode pointer fault))) :
    Shedding whole short := .ended ⟨status, shortStatus, rfl, alike⟩

/-- Behind an operation that both have in common the machines go on with the same code. -/
theorem Joint.same (joint : Joint whole short rest shortRest after shortAfter)
    (around : List.Forall₂ ActiveLoop.Copies whole.loops short.loops)
    (behind : rest.Copies shortRest) : Shedding after shortAfter := by
  cases joint with
  | goesOn linked ready code shortCode loops shortLoops near =>
    -- Whatever the operation comes to, the codes behind it differ as little as those before.
    exact .same linked ready (by rwa [loops, shortLoops]) (by rwa [code, shortCode])
  | waits linked asking code shortCode loops shortLoops tape =>
    exact .asking linked asking (by rwa [loops, shortLoops]) code shortCode behind
  | ended alike halted => exact alike.shedding halted
  | faults alike status shortStatus => exact .faults alike status shortStatus

/-- Behind an operation that changes no cell the dead loops are still to be skipped. -/
theorem Joint.unspent (joint : Joint whole short rest shortRest after shortAfter)
    (unspent : Unspent whole short) (blank : after.tape.IsBlank)
    (dry : after.status ≠ .asking) (behind : rest.Sheds shortRest) :
    Shedding after shortAfter := by
  cases joint with
  | goesOn linked ready code shortCode loops shortLoops near =>
    refine .unspent ⟨linked, ready, loops.trans unspent.outside,
      shortLoops.trans unspent.shortOutside, blank⟩ ?_
    rwa [code, shortCode]
  | waits linked asking code shortCode loops shortLoops tape => exact absurd asking dry
  | ended alike halted => exact alike.shedding halted
  | faults alike status shortStatus => exact .faults alike status shortStatus

namespace Linked

variable (linked : Linked whole short)
include linked

/-- At the end of a sequence both machines test the same loop, or end their runs. -/
theorem same_done (ready : whole.status = .ready)
    (around : List.Forall₂ ActiveLoop.Copies whole.loops short.loops)
    (code : whole.code = .done) (shortCode : short.code = .done) :
    Shedding whole.advance short.advance := by
  have same := around
  simp only [Machine.advance, code, shortCode]
  -- The loops around both sequences are copies, one by one.
  generalize loops : whole.loops = enclosing at same
  generalize shortLoops : short.loops = shortEnclosing at same
  cases same with
  | nil => exact (linked.alike.finish none).shedding rfl
  | @cons innermost shortInnermost outer shortOuter copies outside =>
    have cell : short.tape.cell = whole.tape.cell := by rw [linked.alike.tape]
    dsimp only
    rw [test_of_calm linked.calm, test_of_calm linked.otherCalm, cell]
    split
    · exact .same (linked.placed _ _ _ _) ready outside copies.behind
    · exact .same (linked.placed _ _ _ _) ready around copies.inside

/-- A loop of both programs is entered by both machines. -/
theorem same_loop (around : List.Forall₂ ActiveLoop.Copies whole.loops short.loops)
    {pos place : Nat} {body shortBody : Code} (inside : body.Copies shortBody)
    (code : whole.code = .loop pos body rest)
    (shortCode : short.code = .loop place shortBody shortRest) (behind : rest.Copies shortRest) :
    Shedding whole.advance short.advance := by
  have entered := linked.entered pos place (⟨body, rest⟩ :: whole.loops)
    (⟨shortBody, shortRest⟩ :: short.loops)
  -- Both enter at once, and both bodies are empty until the first test.
  rw [advance_of_loop linked.running code, advance_of_loop linked.otherRunning shortCode]
  exact .same entered rfl (.cons ⟨inside, behind⟩ around) .done

end Linked

namespace Unspent

variable (unspent : Unspent whole short)
include unspent

/-- The loops around the two machines have the same bodies. -/
theorem loops : List.Forall₂ ActiveLoop.Copies whole.loops short.loops := by
  rw [unspent.outside, unspent.shortOutside]
  exact .nil

/-- An operation that changes no cell leaves the dead loops behind it to be skipped. -/
theorem harmless {pos place : Nat} {action : Op} (harmless : action.writesTape = false)
    (proper : action ≠ .breakpoint) (code : whole.code = .op pos action rest)
    (shortCode : short.code = .op place action shortRest) (behind : rest.Sheds shortRest) :
    Shedding whole.advance short.advance := by
  -- Outside the debugger the operation is executed at once.
  have executed : whole.advance = whole.execute := by
    simp only [advance, code, unspent.linked.outside.1, if_false]
  have executes := whole.executes_execute (by simp [code])
  obtain ⟨cells, dry⟩ := executes.harmless code harmless
  have joint := unspent.linked.advance proper code shortCode
  rw [executed] at joint ⊢
  exact joint.unspent unspent (unspent.blank.congr cells) dry behind

/-- On a blank tape the machine with the dead loops enters the next one and leaves it at once, and
is where the other one is all the time. -/
theorem skip {pos : Nat} {body : Code} (code : whole.code = .loop pos body rest) :
    whole.advance.status = .ready ∧ Unspent whole.advance.advance short ∧
      whole.advance.advance.code = rest := by
  obtain ⟨linked, ready, outside, shortOutside, blank⟩ := unspent
  have calm := cancellation_begin linked.calm pos .loop
  have zero : whole.tape.cell = 0 := blank _
  have entered := advance_of_loop linked.running code
  have left : whole.advance.advance =
      { whole.begin pos .loop with code := rest, loops := whole.loops, status := .ready } := by
    rw [entered]
    exact if_pos zero
  -- Of what tells machines apart only the start of the loop is new, and it is left out.
  rw [left]
  refine ⟨by rw [entered], ⟨⟨?_, linked.running, calm⟩, rfl, outside, shortOutside, blank⟩, rfl⟩
  rw [Alike, ← linked.alike, ← essence_begin linked.calm pos .loop, ← ready]
  rfl

end Unspent

end

end Machine

namespace Session

variable {whole short : Session}

/-- The machines stand to each other like one with dead loops and one without, and their line
sources hold the same. -/
structure Shedding (whole short : Session) : Prop where
  machines : Machine.Shedding whole.machine short.machine
  script : whole.script = short.script

namespace Shedding

/-- Where both make a move, both go on. -/
theorem together (ready : whole.machine.status = .ready)
    (linked : Machine.Linked whole.machine short.machine) (script : whole.script = short.script)
    (next : Machine.Shedding whole.machine.advance short.machine.advance) :
    ∃ i j, 0 < i ∧ 0 < j ∧ Shedding (step^[i] whole) (step^[j] short) := by
  have shortReady : short.machine.status = .ready := linked.alike.status ▸ ready
  refine ⟨1, 1, Nat.one_pos, Nat.one_pos, ?_⟩
  rw [Function.iterate_one, step_of_ready ready, step_of_ready shortReady]
  exact ⟨next, script⟩

/-- Dead loops are skipped until both machines are in front of the same instruction. -/
theorem progress_unspent {code shortCode : Code} (sheds : code.Sheds shortCode) :
    ∀ {whole short : Session}, Machine.Unspent whole.machine short.machine →
      whole.machine.code = code → short.machine.code = shortCode →
      whole.script = short.script →
      ∃ i j, 0 < i ∧ 0 < j ∧ Shedding (step^[i] whole) (step^[j] short) := by
  -- The induction is on the way in which the two sequences differ.
  induction sheds with
  | done =>
    intro whole short unspent here there script
    have next := unspent.linked.same_done unspent.ready unspent.loops here there
    exact together unspent.ready unspent.linked script next
  | loop behind ih =>
    intro whole short unspent here there script
    obtain ⟨ready, later, rest⟩ := unspent.skip here
    let skipped : Session := ⟨whole.machine.advance.advance, whole.script⟩
    -- The two moves through the dead loop come before those that the rest needs.
    obtain ⟨i, j, -, moved, next⟩ := @ih skipped short later rest there script
    refine ⟨i + 2, j, by omega, moved, ?_⟩
    rw [Function.iterate_add_apply, Function.iterate_succ_apply, Function.iterate_one,
      step_of_ready unspent.ready, step_of_ready ready]
    exact next
  | harmless harmless proper behind =>
    intro whole short unspent here there script
    have next := unspent.harmless harmless proper here there behind
    exact together unspent.ready unspent.linked script next
  | @writing _ _ action _ _ writes behind =>
    intro whole short unspent here there script
    -- Behind this operation nothing is left out any more.
    have proper : action ≠ .breakpoint := by
      rintro rfl
      cases writes
    have joint := unspent.linked.advance proper here there
    exact together unspent.ready unspent.linked script (joint.same unspent.loops behind)

/-- From one place where both machines are in front of the same instruction to the next one. -/
theorem progress (shedding : Shedding whole short) (running : ¬ whole.machine.isHalted = true) :
    ∃ i j, 0 < i ∧ 0 < j ∧ Shedding (step^[i] whole) (step^[j] short) := by
  obtain ⟨machines, script⟩ := shedding
  cases machines with
  -- Only in front of the first operation that writes are there loops to skip.
  | unspent unspent code => exact progress_unspent code unspent rfl rfl script
  | same linked ready loops code =>
    generalize here : whole.machine.code = wholeCode at code
    generalize there : short.machine.code = shortCode at code
    cases code with
    | done => exact together ready linked script (linked.same_done ready loops here there)
    | op proper behind =>
      have joint := linked.advance proper here there
      exact together ready linked script (joint.same loops behind)
    | loop inside behind =>
      exact together ready linked script (linked.same_loop loops inside here there behind)
  | asking linked asking loops code shortCode behind =>
    have shortAsking : short.machine.status = .asking := linked.alike.status ▸ asking
    refine ⟨1, 1, Nat.one_pos, Nat.one_pos, ?_⟩
    rw [Function.iterate_one, step_of_asking asking, step_of_asking shortAsking, script]
    exact ⟨(linked.receive asking code shortCode _).same loops behind, rfl⟩
  | ended same => simp [Machine.isHalted, same.status] at running

/-- Both runs are over together. -/
theorem halted_iff (shedding : Shedding whole short) :
    whole.machine.isHalted = true ↔ short.machine.isHalted = true := by
  have alike (linked : Machine.Linked whole.machine short.machine) :
      whole.machine.isHalted = short.machine.isHalted := by
    rw [Machine.isHalted, Machine.isHalted, linked.alike.status]
  cases shedding.machines with
  | unspent unspent => rw [alike unspent.linked]
  | same linked => rw [alike linked]
  | asking linked => rw [alike linked]
  | ended same => simp [Machine.isHalted, same.status, same.shortStatus]

/-- The two runs keep in step until both are over. -/
theorem lockstep : Lockstep step step (fun session => session.machine.isHalted = true)
    (fun session => session.machine.isHalted = true) Shedding where
  leftStill _ := step_of_halted
  rightStill _ := step_of_halted
  together _ _ := halted_iff
  progress _ _ := progress

end Shedding

end Session

/-- Fresh machines with and without the dead loops. -/
theorem Blueprint.shedding (blueprint : Blueprint) (outside : blueprint.debugging = false)
    (calm : blueprint.cancellation = .never) {short : Program}
    (sheds : blueprint.program.code.Sheds short.code) (script : List Entry) :
    Session.Shedding ⟨blueprint.machine, script⟩
      ⟨{ blueprint with program := short }.machine, script⟩ := by
  refine ⟨.unspent ⟨⟨rfl, ?_, calm⟩, rfl, rfl, rfl, Tape.isBlank_blank _⟩ sheds, rfl⟩
  simp only [machine, outside, Bool.false_eq_true, if_false]

/-- Dead loops never run. In no run of a fresh machine, whatever its surroundings, an instruction
starts between the brackets of a loop that the lint reports as dead. And leaving all these loops out
preserves a program without breakpoints: what is left compiles, and outside the debugger, with
nobody to cancel them, the two runs end together or not at all, with the same error or none but for
the position that it names, the same tape and the same bytes in the sink, after the same prompts,
answers of the line source, inputs, outputs and deliveries in the same order. -/
theorem dead_loops_never_run {source : Bytes} {program : Program}
    (compiled : compile source = .ok program) :
    (∀ issue ∈ lint program, issue.finding.kind = "DEAD_LOOP" →
      let stop := loopEndOf program.listing issue.pos
      Matching program.listing issue.pos stop ∧
        ∀ blueprint : Blueprint, blueprint.program = program →
          ∀ script moves pos opcode steps place cell mode,
            .exec pos opcode steps place cell mode ∈
              (Session.run moves ⟨blueprint.machine, script⟩).machine.events →
            ¬ (issue.pos < pos ∧ pos < stop)) ∧
    (ascii '!' ∉ source → ∃ short, compile (withoutDeadLoops program) = .ok short ∧
      ∀ blueprint : Blueprint, blueprint.program = program → blueprint.debugging = false →
        blueprint.cancellation = .never → ∀ script,
          let whole moves := Session.run moves ⟨blueprint.machine, script⟩
          let rest moves := Session.run moves ⟨{ blueprint with program := short }.machine, script⟩
          ((∃ moves, (whole moves).machine.isHalted = true) ↔
            ∃ moves, (rest moves).machine.isHalted = true) ∧
          ∀ moves fewer error shortError, (whole moves).machine.status = .halted error →
            (rest fewer).machine.status = .halted shortError →
            shortError.map RunError.unplaced = error.map RunError.unplaced ∧
            (rest fewer).machine.tape = (whole moves).machine.tape ∧
            (rest fewer).machine.told Event.sunk = (whole moves).machine.told Event.sunk ∧
            (rest fewer).machine.events.filter Event.isOutward =
              (whole moves).machine.events.filter Event.isOutward ∧
            (rest fewer).script = (whole moves).script) := by
  constructor
  · intro issue reported kind stop
    have dead := (mem_lint_deadLoop program issue).mp ⟨reported, kind⟩
    have lies := code_liesAt_of_compile compiled
    obtain ⟨matching, awaits⟩ := program.code.awaits_of_mem_deadLoops lies dead
    -- A dead loop is awaited by the whole program, so no run comes into it.
    refine ⟨matching, ?_⟩
    rintro blueprint rfl script moves pos opcode steps place cell mode member
    rw [Session.run_eq_iterate] at member
    obtain ⟨-, outside⟩ := Session.skips_iterate awaits script moves
    refine outside pos opcode steps place cell mode ?_
    exact List.mem_flatMap.mpr ⟨_, member, List.mem_singleton_self _⟩
  · intro plain
    obtain ⟨short, found, sheds⟩ := compile_withoutDeadLoops compiled plain
    refine ⟨short, found, ?_⟩
    rintro blueprint rfl outside calm script
    have start := blueprint.shedding outside calm sheds script
    obtain ⟨both, last⟩ := Session.Shedding.lockstep.ends start
    -- The two runs are in step, and so are their ends.
    simp only [Session.run_eq_iterate]
    refine ⟨both, ?_⟩
    intro moves fewer error shortError ended shortEnded
    obtain ⟨machines, left⟩ := last moves fewer (by simp [Machine.isHalted, ended])
      (by simp [Machine.isHalted, shortEnded])
    -- Of the ways in which the machines may stand to each other only one is left.
    cases machines with
    | unspent unspent =>
      have ready := unspent.ready
      rw [ended] at ready
      cases ready
    | same _ ready =>
      rw [ended] at ready
      cases ready
    | asking _ asking =>
      rw [ended] at asking
      cases asking
    | ended same =>
      obtain ⟨status, shortStatus, unplaced, alike⟩ := same
      rw [ended] at status
      rw [shortEnded] at shortStatus
      cases status
      cases shortStatus
      exact ⟨unplaced, alike.tape.symm, alike.sunk.symm, alike.outward.symm, left.symm⟩

/-- A loop is skipped on the way to the second cell, also in the debugger, and left out. -/
theorem dead_loops_never_run_left_out :
    let program : Program := ⟨.op 0 .moveRight (.loop 1 (.op 2 .increment .done)
      (.op 4 .increment (.op 5 .output .done))), 6, 1⟩
    let blueprint : Blueprint := { Blueprint.ofProgram program with tapeLength := 2 }
    let watched : Blueprint := { blueprint with debugging := true }
    let script : List Entry := [.line (utf8 "next"), .line (utf8 "exit")]
    compile (utf8 ">[+]+.") = .ok program ∧ withoutDeadLoops program = utf8 ">+." ∧
      (∀ moves steps mode, .exec 2 (.basic .increment) steps 1 0 mode ∉
        (Session.run moves ⟨watched.machine, script⟩).machine.events) ∧
      ∃ short fewer, compile (utf8 ">+.") = .ok short ∧
        let rest := Session.run fewer ⟨{ blueprint with program := short }.machine, []⟩
        rest.machine.isHalted = true ∧ rest.machine.told Event.sunk = [1] := by
  intro program blueprint watched script
  have compiled : compile (utf8 ">[+]+.") = .ok program := rfl
  have left : withoutDeadLoops program = utf8 ">+." := by
    rw [withoutDeadLoops_eq compiled]
    decide +kernel
  have dead : (⟨1, 0, .deadLoop 1⟩ : Issue) ∈ lint program ∧
      (⟨1, 0, .deadLoop 1⟩ : Issue).finding.kind = "DEAD_LOOP" :=
    (mem_lint_deadLoop program _).mpr (by decide)
  obtain ⟨never, others⟩ := dead_loops_never_run compiled
  obtain ⟨-, skipped⟩ := never _ dead.1 dead.2
  obtain ⟨short, found, runs⟩ := others (by decide)
  obtain ⟨together, same⟩ := runs blueprint rfl rfl rfl []
  dsimp only at same
  have ended : (Session.run 7 ⟨blueprint.machine, []⟩).machine.status = .halted none := by
    decide +kernel
  have sunk : (Session.run 7 ⟨blueprint.machine, []⟩).machine.told Event.sunk = [1] := by
    decide +kernel
  obtain ⟨fewer, halted⟩ := together.mp ⟨7, by decide +kernel⟩
  refine ⟨compiled, left, ?_, short, fewer, left ▸ found, halted, ?_⟩
  · intro moves steps mode member
    exact skipped watched rfl script moves _ _ _ _ _ _ member (by decide +kernel)
  · obtain ⟨error, status⟩ := Machine.exists_status_of_halted halted
    obtain ⟨-, -, output, -⟩ := same 7 fewer none error ended status
    exact output.trans sunk

end TapeMachine
