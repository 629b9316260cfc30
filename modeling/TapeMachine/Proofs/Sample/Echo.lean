import TapeMachine.Proofs.Input.LineEndings
import TapeMachine.Proofs.Machine.FlatRun
import TapeMachine.Proofs.Machine.Tape
import TapeMachine.Proofs.Runner.FlatCall
import TapeMachine.Sample

/-! The echo sample says what it hears, up to the first zero byte. -/

namespace TapeMachine

namespace Sample

/-- The program of the echo sample, `,[.[-],]`. -/
def echoProgram : Program where
  code := .op 0 .input (.loop 1 (.op 2 .output
    (.loop 3 (.op 4 .decrement .done) (.op 6 .input .done))) .done)
  length := 8
  maxDepth := 2

/-- The echo sample can be compiled. -/
theorem compile_echo : compile echo.source = .ok echoProgram := by decide +kernel

/-- The outer loop of the listing. -/
theorem echo_outer : FlatMachine.Brackets echoProgram.listing 1 7 := by
  constructor <;> decide +kernel

/-- The inner loop of the listing. -/
theorem echo_inner : FlatMachine.Brackets echoProgram.listing 3 5 := by
  constructor <;> decide +kernel

section

open FlatMachine

variable {flat : FlatMachine} {length : Nat} {value : UInt8} {upcoming shown : Bytes}

/-- The first cell of a tape with a byte in it, all other cells being zero. -/
def firstCell (length : Nat) (value : UInt8) : Tape := (Tape.blank length).write value

/-- The first cell holds its byte. -/
theorem cell_firstCell (cells : 0 < length) : (firstCell length value).cell = value :=
  Tape.cell_write (by simpa [Tape.blank, Tape.length]) value

/-- With a zero in its first cell the tape is blank. -/
theorem firstCell_zero : firstCell length 0 = .blank length := by
  have same := (Tape.blank length).write_cell
  rwa [Tape.cell_blank] at same

/-- From inside the inner loop the cell is counted down to zero. -/
theorem echo_clears (cells : 0 < length)
    (comes : Comes echoProgram.listing .stream flat 4 (firstCell length value) upcoming shown)
    (counts : value ≠ 0) :
    Comes echoProgram.listing .stream flat 6 (.blank length) upcoming shown := by
  -- Each pass takes one away from the cell, which does not wrap around before it is zero.
  induction amount : value.toNat generalizing value with
  | zero => exact absurd (UInt8.toNat_inj.mp amount) counts
  | succ passes ih =>
    have counted := comes.decrement (by decide +kernel)
    rw [cell_firstCell cells, firstCell, Tape.write_write, ← firstCell] at counted
    have tested := counted.loopEnd echo_inner
    rw [cell_firstCell cells] at tested
    split at tested
    · rename_i zero
      rwa [zero, firstCell_zero] at tested
    · rename_i more
      have fewer : (value - 1).toNat = passes := by
        have positive : (1 : UInt8) ≤ value := by
          rw [UInt8.le_iff_toNat_le, amount]
          exact Nat.succ_le_succ (Nat.zero_le passes)
        rw [UInt8.toNat_sub_of_le _ _ positive, amount]
        rfl
      exact ih tested more fewer

/-- A pass of the outer loop puts the cell out and clears it, and then asks for input. -/
theorem echo_passes (cells : 0 < length)
    (comes : Comes echoProgram.listing .stream flat 2 (firstCell length value) upcoming shown)
    (counts : value ≠ 0) :
    Comes echoProgram.listing .stream flat 6 (.blank length) upcoming (shown ++ [value]) := by
  -- The output instruction comes in front of the inner loop.
  have put := comes.output (by decide +kernel)
  have entered := put.loop echo_inner
  rw [cell_firstCell cells, if_neg counts] at entered
  exact echo_clears cells entered counts

/-- From the test of the outer loop on, the cell and all that is to come are put out, up to the
first zero byte; then the loop is left with a blank tape. -/
theorem echo_repeats (cells : 0 < length) :
    ∀ {value : UInt8} {shown : Bytes},
      Comes echoProgram.listing .stream flat (if value = 0 then 8 else 2) (firstCell length value)
        upcoming shown →
      ∃ left, Comes echoProgram.listing .stream flat 8 (.blank length) left
        (shown ++ (value :: upcoming).takeWhile (· ≠ 0)) := by
  -- Each pass takes the next byte of the input. Behind the last one the cell keeps the zero the
  -- inner loop has left, so the end of the input ends the loop like a zero byte does.
  induction upcoming with
  | nil =>
    intro value shown comes
    by_cases zero : value = 0
    · subst zero
      exact ⟨[], by simpa [firstCell_zero] using comes⟩
    · rw [if_neg zero] at comes
      have asked := (echo_passes cells comes zero).inputEnd (by decide +kernel)
      have tested := asked.loopEnd echo_outer
      rw [Tape.cell_blank, if_pos rfl] at tested
      exact ⟨[], by simpa [zero] using tested⟩
  | cons byte upcoming ih =>
    intro value shown comes
    by_cases zero : value = 0
    · subst zero
      exact ⟨byte :: upcoming, by simpa [firstCell_zero] using comes⟩
    · rw [if_neg zero] at comes
      have asked := (echo_passes cells comes zero).input (by decide +kernel)
      have tested := asked.loopEnd echo_outer
      rw [← firstCell, cell_firstCell cells] at tested
      obtain ⟨left, behind⟩ := ih tested
      exact ⟨left, by simpa [zero] using behind⟩

/-- On every stream the echo program ends with a blank tape, and has put out the stream with its
line endings made equal, up to the first zero byte. -/
theorem echo_halts (cells : 0 < length) (stream : Bytes) :
    ∃ moves,
      let last := run echoProgram.listing .stream moves (start length (scriptOf stream))
      last.outcome = some none ∧ last.tape = .blank length ∧
        last.output = (normalised stream).takeWhile (· ≠ 0) := by
  have begins : Comes echoProgram.listing .stream (start length (scriptOf stream)) 0
      (.blank length) (normalised stream) [] := by
    rw [← decode_scriptOf]
    exact comes_start _ _ _ (lines stream)
  generalize start length (scriptOf stream) = flat at *
  generalize normalised stream = upcoming at *
  -- The first input instruction stands in front of the outer loop, which tests what it has got.
  have behind : ∃ left, Comes echoProgram.listing .stream flat 8 (.blank length) left
      (upcoming.takeWhile (· ≠ 0)) := by
    cases upcoming with
    | nil =>
      have tested := (begins.inputEnd (by decide +kernel)).loop echo_outer
      rw [Tape.cell_blank, if_pos rfl] at tested
      exact ⟨[], tested⟩
    | cons byte upcoming =>
      have tested := (begins.input (by decide +kernel)).loop echo_outer
      rw [← firstCell, cell_firstCell cells] at tested
      exact echo_repeats cells tested
  obtain ⟨left, last⟩ := behind
  exact last.halts (by decide +kernel)

end

/-- The echo sample repeats its input. Whatever standard input holds, and in whatever order the
reader of it and the machine move: a runner that has loaded the sample and uses stream input comes
to an end without an error; it has then added to standard output the longest beginning without a
zero byte of the stream with its line endings made equal; and the pointer is on the first cell of a
tape of zeros. -/
theorem echo_repeats_input {idle runner : Runner} {name : Bytes} {record : LogRecord}
    (loads : idle.load name echo.source = .ok (runner, record))
    (stream : runner.config.mode = .stream) (running : runner.config.debug = false)
    (cells : 1 ≤ runner.config.tapeLength)
    (limited : runner.config.tapeLength ≤ Blueprint.memoryLimit) {logger : Option Logger}
    (elsewhere : ∀ log ∈ logger, log.channel ≠ .stdout) (workspace : Workspace)
    (interactive : Bool) (environment : Environment) (schedule : Nat → Turn) :
    let scheduled turns := (runner.run
      { Workspace.scheduledHost schedule turns environment with interactive } logger .never).run
      workspace
    (∃ turns, Runner.Ended (scheduled turns).1) ∧
      ∀ turns, Runner.Ended (scheduled turns).1 → ∃ machine,
        (scheduled turns).1.2 = .ok machine ∧ machine.status = .halted none ∧
          machine.tape = .blank runner.config.tapeLength.toNat ∧
          (scheduled turns).2.stdout =
            workspace.stdout ++ (normalised workspace.stdin).takeWhile (· ≠ 0) := by
  have holds : runner.loaded = some ⟨name, echoProgram⟩ := by
    rw [Runner.load, compile_echo] at loads
    cases loads
    rfl
  have program : runner.program = echoProgram := by rw [Runner.program, holds]
  have compiled : compile echo.source = .ok runner.program := by rw [program, compile_echo]
  have plain : Op.breakpoint.symbol ∉ runner.program.listing := by
    rw [program]
    decide +kernel
  have positive : 0 < runner.config.tapeLength.toNat := by omega
  obtain ⟨moves, ended, tape, output⟩ := echo_halts positive workspace.stdin
  rw [← stream, ← program] at ended tape output
  have result := Runner.scheduled_of_flat holds compiled plain running cells limited elsewhere
    rfl ended interactive environment schedule
  rwa [tape, output] at result

/-- Of two carriage returns before a line feed one is left, and the one at the end is replaced. -/
theorem echo_repeats_input_returns :
    let idle := Runner.fresh (utf8 "Driver") { echo.config with tapeLength := 2 }
    let runner : Runner := { idle with loaded := some ⟨echo.name, echoProgram⟩ }
    let workspace : Workspace := .fresh .empty (utf8 "a\r\r\nb\r")
    let schedule turn : Turn := if turn % 3 = 0 then .reader else .machine
    let scheduled turns := (runner.run
      { Workspace.scheduledHost schedule turns (fun _ => none) with interactive := true }
      (some .preset) .never).run workspace
    (∃ record, idle.load echo.name echo.source = .ok (runner, record)) ∧
      ∃ turns machine, (scheduled turns).1.2 = .ok machine ∧ machine.status = .halted none ∧
        machine.tape = .blank 2 ∧
        (scheduled turns).2.stdout = utf8 "a\r\nb\n" := by
  intro idle runner workspace schedule scheduled
  have loads : idle.load echo.name echo.source =
      .ok (runner, idle.loadRecord ⟨echo.name, echoProgram⟩) := by
    rw [Runner.load, compile_echo]
  have elsewhere : ∀ log ∈ some Logger.preset, log.channel ≠ .stdout := by
    intro log same
    cases same
    decide
  obtain ⟨⟨turns, stopped⟩, leaves⟩ := echo_repeats_input loads (by decide +kernel) rfl (by decide)
    (by decide) elsewhere workspace true (fun _ => none) schedule
  obtain ⟨machine, answer, halted, tape, shown⟩ := leaves turns stopped
  refine ⟨⟨_, loads⟩, turns, machine, answer, halted, tape, ?_⟩
  rw [shown]
  decide +kernel

end Sample

end TapeMachine
