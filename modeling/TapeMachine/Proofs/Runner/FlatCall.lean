import TapeMachine.Proofs.Machine.FlatRefinement
import TapeMachine.Proofs.Runner.Sequential

/-! Calls of a runner read off the flat machine: what they leave on standard output, on the tape and
as an error. -/

namespace TapeMachine

/-- A machine in step with a flat machine has ended like it. -/
theorem InStep.status_of_outcome {listing : Bytes} {inputMode : InputMode} {session : Session}
    {flat : FlatMachine} (inStep : InStep listing inputMode session flat)
    {error : Option RunError} (ended : flat.outcome = some error) :
    session.machine.status = .halted error := by
  rcases inStep.place with facing | ⟨other, halted, same, -⟩
  · rw [facing.running] at ended
    cases ended
  · rw [same] at ended
    rw [halted, Option.some.inj ended]

namespace Runner

/-- A program without breakpoints that ends on the flat machine ends under every schedule of the
reader and the machine, with the same error, tape and output. -/
theorem scheduled_of_flat {runner : Runner} {loaded : LoadedProgram} {source : Bytes}
    (holds : runner.loaded = some loaded) (compiled : compile source = .ok runner.program)
    (plain : Op.breakpoint.symbol ∉ runner.program.listing)
    (running : runner.config.debug = false) (cells : 1 ≤ runner.config.tapeLength)
    (limited : runner.config.tapeLength ≤ Blueprint.memoryLimit) {logger : Option Logger}
    (elsewhere : ∀ log ∈ logger, log.channel ≠ .stdout) {workspace : Workspace}
    {flatMoves : Nat} {last : FlatMachine} {error : Option RunError}
    (reached : FlatMachine.run runner.program.listing runner.config.mode flatMoves
      (.start runner.config.tapeLength.toNat (scriptOf workspace.stdin)) = last)
    (ends : last.outcome = some error) (interactive : Bool) (environment : Environment)
    (schedule : Nat → Turn) :
    let scheduled turns := (runner.run
      { Workspace.scheduledHost schedule turns environment with interactive } logger .never).run
      workspace
    (∃ turns, Ended (scheduled turns).1) ∧
      ∀ turns, Ended (scheduled turns).1 → ∃ machine,
        (scheduled turns).1.2 = .ok machine ∧ machine.status = .halted error ∧
          machine.tape = last.tape ∧
          (scheduled turns).2.stdout = workspace.stdout ++ last.output := by
  intro scheduled
  subst reached
  let blueprint := runner.config.core runner.program interactive none
  -- The machine of the call keeps in step with the flat machine on the lines of the stream.
  have begins : InStep blueprint.program.listing blueprint.inputMode
      ⟨blueprint.machine, scriptOf workspace.stdin⟩
      (.start blueprint.tapeLength.toNat (scriptOf workspace.stdin)) :=
    inStep_start compiled running rfl rfl (scriptOf workspace.stdin)
  obtain ⟨together, related⟩ := (flat_lockstep blueprint.inputMode plain).ends begins
  have finished : ((FlatMachine.step blueprint.program.listing blueprint.inputMode)^[flatMoves]
      (.start blueprint.tapeLength.toNat (scriptOf workspace.stdin))).isHalted = true := by
    show (FlatMachine.run runner.program.listing runner.config.mode flatMoves
      (.start runner.config.tapeLength.toNat (scriptOf workspace.stdin))).isHalted = true
    rw [FlatMachine.isHalted, ends]
    rfl
  obtain ⟨moves, halted⟩ := together.mpr ⟨flatMoves, finished⟩
  have inStep := related moves flatMoves halted finished
  have result := inStep.sameResult finished
  obtain ⟨terminates, same⟩ := Interplay.play_ends schedule blueprint.machine workspace.stdin
  simp only [Session.run_eq_iterate] at terminates same
  -- The call leaves what the end of the machine leaves.
  have built : (runner.config.core loaded.program interactive none).build =
      .ok blueprint.machine := by
    have program : loaded.program = runner.program := by rw [Runner.program, holds]
    rw [program]
    exact Blueprint.build_of_fits cells limited rfl
  have scheduled_eq (turns : Nat) : scheduled turns =
      leave { runner with stats := some .zero } logger workspace
        (Interplay.play schedule turns (.start blueprint.machine workspace.stdin)).machine :=
    Runner.scheduled_eq holds built environment workspace schedule turns
  simp only [scheduled_eq]
  refine ⟨terminates.mpr ⟨moves, halted⟩, fun turns stopped => ⟨_, rfl, ?_⟩⟩
  rw [(shows_leave _ logger workspace _).stdout elsewhere, same turns moves stopped halted]
  exact ⟨inStep.status_of_outcome ends, result.tape,
    congrArg (workspace.stdout ++ ·) result.output⟩

end Runner

end TapeMachine
