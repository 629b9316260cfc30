import TapeMachine.Proofs.Machine.FlatRefinement
import TapeMachine.Proofs.Machine.Intake

/-! Runs of the flat machine over a listing, followed symbol by symbol while its line source hands
out lines. -/

namespace TapeMachine

/-- Input that lines still hold is taken byte by byte. -/
theorem takeByte_of_upcoming {inputMode : InputMode} {pending : Bytes} {lines : List Bytes}
    {byte : UInt8} {upcoming : Bytes}
    (next : pending ++ inputMode.decode (lines.map .line) = byte :: upcoming) :
    ∃ (pending' : Bytes) (left : List Bytes) (asked : Nat),
      takeByte inputMode pending (lines.map .line) =
        ⟨.byte byte, pending', left.map .line, asked⟩ ∧
      pending' ++ inputMode.decode (left.map .line) = upcoming := by
  cases pending with
  | cons first more =>
    obtain ⟨rfl, rfl⟩ := List.cons.inj next
    exact ⟨more, lines, 0, rfl, rfl⟩
  | nil =>
    -- Only an empty line of line input holds no byte, and then the next one is looked at.
    induction lines with
    | nil => cases next
    | cons line lines ih =>
      cases inputMode with
      | stream =>
        cases line with
        | nil =>
          obtain ⟨rfl, rfl⟩ := List.cons.inj next
          exact ⟨[], lines, 1, rfl, rfl⟩
        | cons first more =>
          obtain ⟨rfl, rfl⟩ := List.cons.inj next
          exact ⟨more ++ [newline], lines, 1, rfl, rfl⟩
      | line =>
        cases line with
        | nil =>
          obtain ⟨pending', left, asked, taken, rest⟩ := ih next
          refine ⟨pending', left, asked + 1, ?_, rest⟩
          simp only [takeByte] at taken
          simp [takeByte, nextByte, taken]
        | cons first more =>
          obtain ⟨rfl, rfl⟩ := List.cons.inj next
          exact ⟨[], lines, 1, rfl, rfl⟩

/-- Behind the last byte of the lines the input has ended. -/
theorem takeByte_of_nothing {inputMode : InputMode} {pending : Bytes} {lines : List Bytes}
    (spent : pending ++ inputMode.decode (lines.map .line) = []) :
    ∃ asked, takeByte inputMode pending (lines.map .line) = ⟨.ended, [], [], asked⟩ := by
  obtain ⟨rfl, nothing⟩ := List.append_eq_nil_iff.mp spent
  clear spent
  -- Lines without a byte are passed over on the way to the end.
  induction lines with
  | nil => exact ⟨1, rfl⟩
  | cons line lines ih =>
    obtain ⟨empty, others⟩ := List.append_eq_nil_iff.mp nothing
    obtain ⟨asked, taken⟩ := ih others
    cases inputMode with
    | stream => cases line <;> cases empty
    | line =>
      cases line with
      | nil =>
        refine ⟨asked + 1, ?_⟩
        simp only [takeByte] at taken
        simp [takeByte, nextByte, taken]
      | cons first more => cases empty

namespace FlatMachine

/-- A machine that runs stands in front of a symbol, with a tape, the bytes that its input
instructions will still get from lines, and the bytes that it has put out. -/
structure At (inputMode : InputMode) (counter : Nat) (tape : Tape) (upcoming output : Bytes)
    (flat : FlatMachine) : Prop where
  running : flat.outcome = none
  front : flat.returning = false
  counter : flat.counter = counter
  tape : flat.tape = tape
  lines : ∃ lines : List Bytes, flat.script = lines.map .line
  upcoming : flat.pending ++ inputMode.decode flat.script = upcoming
  output : flat.output = output

/-- The machine jumps between two brackets of a listing. -/
structure Brackets (listing : Bytes) (start stop : Nat) : Prop where
  opening : listing[start]? = some Opcode.loop.symbol
  closing : listing[stop]? = some loopEnd
  onward : loopEndOf listing start = stop
  back : loopStartOf listing stop = start

/-- A run comes to a place in its listing. -/
def Comes (listing : Bytes) (inputMode : InputMode) (flat : FlatMachine) (counter : Nat)
    (tape : Tape) (upcoming output : Bytes) : Prop :=
  ∃ moves, At inputMode counter tape upcoming output ((step listing inputMode)^[moves] flat)

variable {listing : Bytes} {inputMode : InputMode} {flat : FlatMachine} {counter place : Nat}
  {tape moved : Tape} {upcoming left shown more : Bytes}

/-- A machine stands in front of the first symbol before its first move. -/
theorem comes_start (listing : Bytes) (inputMode : InputMode) (tapeLength : Nat)
    (lines : List Bytes) :
    Comes listing inputMode (start tapeLength (lines.map .line)) 0 (.blank tapeLength)
      (inputMode.decode (lines.map .line)) [] :=
  ⟨0, rfl, rfl, rfl, rfl, ⟨lines, rfl⟩, rfl, rfl⟩

namespace Comes

/-- A run goes on from the place that it has come to. -/
theorem trans (comes : Comes listing inputMode flat counter tape upcoming shown)
    (onward : ∀ flat, At inputMode counter tape upcoming shown flat →
      Comes listing inputMode flat place moved left more) :
    Comes listing inputMode flat place moved left more := by
  obtain ⟨moves, here⟩ := comes
  -- The moves of both parts are added up.
  obtain ⟨others, there⟩ := onward _ here
  exact ⟨others + moves, by rwa [Function.iterate_add_apply]⟩

/-- The current cell is put out. -/
theorem output (comes : Comes listing inputMode flat counter tape upcoming shown)
    (here : listing[counter]? = some Op.output.symbol) :
    Comes listing inputMode flat (counter + 1) tape upcoming (shown ++ [tape.cell]) := by
  refine comes.trans fun flat stands => ⟨1, ?_⟩
  obtain ⟨running, front, rfl, rfl, lines, upcoming, rfl⟩ := stands
  rw [Function.iterate_one, step_op running here, operate, cell_eq]
  exact ⟨running, front, rfl, rfl, lines, upcoming, rfl⟩

/-- The current cell is counted down. -/
theorem decrement (comes : Comes listing inputMode flat counter tape upcoming shown)
    (here : listing[counter]? = some Op.decrement.symbol) :
    Comes listing inputMode flat (counter + 1) (tape.write (tape.cell - 1)) upcoming shown := by
  refine comes.trans fun flat stands => ⟨1, ?_⟩
  obtain ⟨running, front, rfl, rfl, lines, upcoming, rfl⟩ := stands
  rw [Function.iterate_one, step_op running here, operate, withCell_eq, cell_eq]
  exact ⟨running, front, rfl, rfl, lines, upcoming, rfl⟩

/-- The next byte of the input is stored. -/
theorem input {byte : UInt8}
    (comes : Comes listing inputMode flat counter tape (byte :: upcoming) shown)
    (here : listing[counter]? = some Op.input.symbol) :
    Comes listing inputMode flat (counter + 1) (tape.write byte) upcoming shown := by
  refine comes.trans fun flat stands => ⟨1, ?_⟩
  obtain ⟨running, front, rfl, rfl, ⟨lines, script⟩, upcoming, rfl⟩ := stands
  rw [script] at upcoming
  obtain ⟨pending, left, asked, taken, rest⟩ := takeByte_of_upcoming upcoming
  -- The byte comes from the current line or from the next one that holds any.
  rw [Function.iterate_one, step_op running here]
  simp only [operate, takeInput, visit, script, taken, withCell_eq, goOn]
  exact ⟨running, front, rfl, rfl, ⟨left, rfl⟩, rest, rfl⟩

/-- At the end of the input the cell stays as it is. -/
theorem inputEnd (comes : Comes listing inputMode flat counter tape [] shown)
    (here : listing[counter]? = some Op.input.symbol) :
    Comes listing inputMode flat (counter + 1) tape [] shown := by
  refine comes.trans fun flat stands => ⟨1, ?_⟩
  obtain ⟨running, front, rfl, rfl, ⟨lines, script⟩, spent, rfl⟩ := stands
  rw [script] at spent
  obtain ⟨asked, taken⟩ := takeByte_of_nothing spent
  rw [Function.iterate_one, step_op running here]
  simp only [operate, takeInput, visit, script, taken, goOn]
  exact ⟨running, front, rfl, rfl, ⟨[], rfl⟩, rfl, rfl⟩

/-- A loop is entered or passed over at its start. -/
theorem loop (comes : Comes listing inputMode flat counter tape upcoming shown)
    (brackets : Brackets listing counter place) :
    Comes listing inputMode flat (if tape.cell = 0 then place + 1 else counter + 1) tape upcoming
      shown := by
  refine comes.trans fun flat stands => ⟨1, ?_⟩
  obtain ⟨running, front, rfl, rfl, lines, upcoming, rfl⟩ := stands
  rw [Function.iterate_one, step_loop running front brackets.opening, test, cell_eq,
    ← brackets.onward]
  exact ⟨running, rfl, rfl, rfl, lines, upcoming, rfl⟩

/-- At its end a loop is passed through again or left. -/
theorem loopEnd (comes : Comes listing inputMode flat counter tape upcoming shown)
    (brackets : Brackets listing place counter) :
    Comes listing inputMode flat (if tape.cell = 0 then counter + 1 else place + 1) tape upcoming
      shown := by
  refine comes.trans fun flat stands => ⟨2, ?_⟩
  obtain ⟨running, front, rfl, rfl, lines, upcoming, rfl⟩ := stands
  have opening := brackets.opening
  -- The end of the loop leads back to its start first, where the cell is tested.
  rw [← brackets.back] at opening
  rw [step_loopEnd running brackets.closing opening, brackets.back, test, cell_eq]
  exact ⟨running, rfl, by rw [← brackets.onward], rfl, lines, upcoming, rfl⟩

/-- Behind the last symbol the run ends without an error. -/
theorem halts (comes : Comes listing inputMode flat counter tape upcoming shown)
    (here : listing[counter]? = none) :
    ∃ moves, (run listing inputMode moves flat).outcome = some none ∧
      (run listing inputMode moves flat).tape = tape ∧
      (run listing inputMode moves flat).output = shown := by
  obtain ⟨moves, running, front, rfl, rfl, lines, upcoming, rfl⟩ := comes
  refine ⟨moves + 1, ?_⟩
  rw [run, Function.iterate_succ_apply', step_end running here]
  exact ⟨rfl, rfl, rfl⟩

end Comes

end FlatMachine

end TapeMachine
