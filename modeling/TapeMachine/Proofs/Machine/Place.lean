import TapeMachine.Machine.Blueprint
import TapeMachine.Machine.Session
import TapeMachine.Proofs.Machine.Untouched
import TapeMachine.Proofs.Program.Position
import Mathlib.Logic.Function.Iterate

/-! Where a machine stands: its code lies in the listing, inside the brackets of its loops. -/

namespace TapeMachine

/-- The loops around a sequence that ends at `stop`: their brackets enclose their bodies, and what
follows them lies behind. -/
def Encloses (listing : Bytes) : Nat → List ActiveLoop → Prop
  | stop, [] => stop = listing.length
  | stop, loop :: outer =>
    -- The closing bracket is right behind the body, and the next loop encloses what follows.
    ∃ start, stop = start + loop.body.size + 1 ∧ listing[start]? = some Opcode.loop.symbol ∧
      loop.body.LiesAt listing (start + 1) ∧ listing[stop]? = some loopEnd ∧
      loop.rest.LiesAt listing (stop + 1) ∧ Encloses listing (stop + 1 + loop.rest.size) outer

namespace Machine

/-- What no move changes: the program with its listing, and how input is taken. -/
def fixed (machine : Machine) : Program × Array UInt8 × InputMode × Bool :=
  (machine.program, machine.listing, machine.inputMode, machine.prompting)

/-- What leaves the program untouched keeps what no move changes. -/
theorem Untouched.fixed {before after : Machine} (untouched : Untouched before after) :
    after.fixed = before.fixed := by
  simp [Machine.fixed, untouched.program, untouched.listing, untouched.inputMode,
    untouched.prompting]

/-- Operations keep what no move changes. -/
theorem fixed_operate (machine : Machine) (pos : Nat) (action : Op) (rest : Code) :
    (machine.operate pos action rest).fixed = machine.fixed := by
  cases action with
  | moveRight =>
    simp only [operate, move]
    split
    · rfl
    · exact (untouched_finish _ _).fixed
  | moveLeft =>
    simp only [operate, move]
    split
    · rfl
    · exact (untouched_finish _ _).fixed
  | increment => rfl
  | decrement => rfl
  | output =>
    obtain ⟨written, kept, result⟩ := machine.emit_eq rest
    simp only [operate, result]
    split
    · exact (kept.trans (untouched_finish _ _)).fixed
    · exact kept.fixed
  | input =>
    simp only [operate, takeInput]
    split
    · rfl
    · exact machine.untouched_ask.fixed
  | breakpoint => exact (untouched_setMode (machine.record (.breakpoint pos)) .debugging).fixed

/-- Executing an instruction keeps what no move changes. -/
theorem fixed_execute (machine : Machine) : machine.execute.fixed = machine.fixed := by
  unfold execute
  split
  · rfl
  · exact fixed_operate _ _ _ _
  · rfl

/-- A machine that waits for nobody keeps what no move changes. -/
theorem fixed_advance (machine : Machine) : machine.advance.fixed = machine.fixed := by
  -- At the end of a sequence a loop is tested; in front of an instruction the machine stops or
  -- executes it.
  unfold advance
  split
  · split
    · exact (untouched_finish _ _).fixed
    · unfold test
      dsimp only
      split
      · rfl
      · split
        · exact (untouched_finish _ _).fixed
        · rfl
  · split
    · exact (untouched_stop _ _ _).fixed
    · exact fixed_execute machine
  · split
    · exact (untouched_stop _ _ _).fixed
    · exact fixed_execute machine

/-- The input instruction keeps what no move changes. -/
theorem fixed_receiveInput (machine : Machine) (rest : Code) (entry : Entry) :
    (machine.receiveInput rest entry).fixed = machine.fixed := by
  cases entry with
  | line text =>
    -- An empty line makes the instruction ask again, and any other line is stored.
    simp only [receiveInput]
    split
    · rfl
    · rfl
    · exact machine.untouched_ask.fixed
    · rfl
  | ended report => rfl
  | failed reason => exact (untouched_finish _ _).fixed
  | cancelled => exact (untouched_finish machine.cancel _).fixed

/-- The console keeps what no move changes. -/
theorem fixed_receiveCommand (machine : Machine) (pos : Nat) (opcode : Opcode) (entry : Entry) :
    (machine.receiveCommand pos opcode entry).fixed = machine.fixed := by
  -- The console itself changes nothing, so only what it starts has to be looked at.
  rcases machine.receiveCommand_cases pos opcode entry with
    ⟨heard, kept, stopped | executed⟩ | ⟨reason, -, ended⟩ | ⟨-, ended⟩
  · rw [stopped, (untouched_stop _ _ _).fixed, kept.fixed]
  · rw [executed, fixed_execute, kept.fixed]
  · rw [ended, (untouched_finish _ _).fixed]
  · rw [ended]
    exact (untouched_finish machine.cancel _).fixed

/-- A machine that waits for a line keeps what no move changes. -/
theorem fixed_receive (machine : Machine) (entry : Entry) :
    (machine.receive entry).fixed = machine.fixed := by
  have noted := (machine.untouched_recordEntry entry).fixed
  unfold receive
  dsimp only
  split
  · rw [fixed_receiveCommand, noted]
  · rw [fixed_receiveCommand, noted]
  · rw [fixed_receiveInput, noted]
  · exact noted

/-- The code that is left lies at a position of the listing, with the loops around it. -/
def StandsAt (machine : Machine) (pos : Nat) : Prop :=
  machine.code.LiesAt machine.listing.toList pos ∧
    Encloses machine.listing.toList (pos + machine.code.size) machine.loops

/-- Behind an operation the machine stands one position further. -/
theorem StandsAt.behind {machine after : Machine} {pos place : Nat} {action : Op} {rest : Code}
    (stands : machine.StandsAt pos) (next : machine.code = .op place action rest)
    (code : after.code = rest) (listing : after.listing = machine.listing)
    (loops : after.loops = machine.loops) : after.StandsAt (pos + 1) := by
  obtain ⟨lies, around⟩ := stands
  rw [next] at lies around
  unfold StandsAt
  rw [code, listing, loops, show pos + 1 + rest.size = pos + (rest.size + 1) by omega]
  exact ⟨lies.2.2, around⟩

/-- A loop that is entered encloses its body. -/
theorem StandsAt.enclosed {machine : Machine} {pos place : Nat} {body rest : Code}
    (stands : machine.StandsAt pos) (next : machine.code = .loop place body rest) :
    Encloses machine.listing.toList (pos + body.size + 1) (⟨body, rest⟩ :: machine.loops) := by
  obtain ⟨lies, around⟩ := stands
  rw [next] at lies around
  obtain ⟨-, start, inside, stop, behind⟩ := lies
  -- The machine stands at the opening bracket, and the closing one ends the body.
  refine ⟨pos, rfl, start, inside, stop, behind, ?_⟩
  simp only [Code.size] at around
  rw [show pos + body.size + 1 + 1 + rest.size = pos + (body.size + rest.size + 2) by omega]
  exact around

end Machine

/-- The machine of a compiled program starts at the first position. -/
theorem Blueprint.machine_standsAt {source : Bytes} {blueprint : Blueprint}
    (compiled : compile source = .ok blueprint.program) : blueprint.machine.StandsAt 0 := by
  refine ⟨by simpa [machine] using code_liesAt_of_compile compiled, ?_⟩
  simp [machine, Encloses, Program.listing]

namespace Session

/-- A run that is over goes no further. -/
theorem step_of_halted {session : Session} (halted : session.machine.isHalted = true) :
    session.step = session := by
  unfold Machine.isHalted at halted
  unfold step
  split at halted
  · rename_i status
    rw [status]
  · simp at halted

/-- A run of a number of moves is that number of single moves. -/
theorem run_eq_iterate (moves : Nat) : ∀ session, run moves session = step^[moves] session := by
  induction moves with
  | zero => intro session; rfl
  | succ moves ih =>
    intro session
    -- A run that is over makes no further moves, and further moves would change nothing.
    rw [run, Function.iterate_succ_apply]
    split
    · rename_i halted
      rw [step_of_halted halted, Function.iterate_fixed (step_of_halted halted)]
    · rw [ih]

/-- A move keeps what no move changes. -/
theorem fixed_step (session : Session) : session.step.machine.fixed = session.machine.fixed := by
  have handed : session.handOver.machine.fixed = session.machine.fixed := by
    unfold handOver
    split <;> exact Machine.fixed_receive _ _
  unfold step
  split
  · exact Machine.fixed_advance _
  · exact handed
  · exact handed
  · rfl

end Session

end TapeMachine
