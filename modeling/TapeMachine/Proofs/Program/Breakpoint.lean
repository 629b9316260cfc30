import TapeMachine.Proofs.Program.Compile

/-! Programs without their breakpoints: deleting them in the source deletes them in the code. -/

namespace TapeMachine

/-- A source without its breakpoints. -/
def withoutBreakpoints (source : Bytes) : Bytes := source.filter (· ≠ ascii '!')

namespace Code

/-- The instructions without the breakpoints among them. The others keep their positions. -/
def unbroken : Code → Code
  | done => done
  | op pos action rest =>
    if action = .breakpoint then rest.unbroken else op pos action rest.unbroken
  | loop pos body rest => loop pos body.unbroken rest.unbroken

/-- Two sequences differ in nothing but positions, and breakpoints that only the first one has. -/
inductive Unbroken : Code → Code → Prop
  /-- No instruction. -/
  | done : Unbroken done done
  /-- A breakpoint is left out. -/
  | breakpoint {pos : Nat} {rest plain : Code} (behind : Unbroken rest plain) :
      Unbroken (op pos .breakpoint rest) plain
  /-- Any other operation stays. -/
  | op {pos place : Nat} {action : Op} {rest plain : Code} (proper : action ≠ .breakpoint)
      (behind : Unbroken rest plain) : Unbroken (op pos action rest) (op place action plain)
  /-- A loop stays, without the breakpoints in its body. -/
  | loop {pos place : Nat} {body rest plainBody plain : Code} (inside : Unbroken body plainBody)
      (behind : Unbroken rest plain) : Unbroken (loop pos body rest) (loop place plainBody plain)

/-- Only a breakpoint is written like one. -/
theorem symbol_eq_breakpoint_iff (action : Op) :
    action.symbol = ascii '!' ↔ action = .breakpoint := by
  cases action <;> decide

/-- An operation with another symbol is no breakpoint. -/
theorem ne_breakpoint {action : Op} (other : ascii '!' ≠ action.symbol) : action ≠ .breakpoint :=
  fun same => other ((symbol_eq_breakpoint_iff action).mpr same).symm

/-- Code without breakpoints is listed without their symbols. -/
theorem listing_unbroken (code : Code) :
    code.unbroken.listing = withoutBreakpoints code.listing := by
  -- Of all symbols only the one of a breakpoint is deleted, and brackets are never deleted.
  have start : Opcode.loop.symbol ≠ ascii '!' := by decide
  have stop : loopEnd ≠ ascii '!' := by decide
  induction code with
  | done => rfl
  | op pos action rest ih =>
    simp only [unbroken, withoutBreakpoints, listing_op, List.filter_cons] at ih ⊢
    by_cases broken : action = .breakpoint
    · simp [broken, ih, (symbol_eq_breakpoint_iff .breakpoint).2]
    · simp [broken, ih, symbol_eq_breakpoint_iff]
  | loop pos body rest bodyIh restIh =>
    simp only [withoutBreakpoints] at bodyIh restIh ⊢
    simp [unbroken, bodyIh, restIh, start, stop]

/-- Leaving the breakpoints out and counting the positions anew changes nothing else. -/
theorem unbroken_numberedFrom (code : Code) :
    ∀ pos, Unbroken code (code.unbroken.numberedFrom pos) := by
  induction code with
  | done => exact fun _ => .done
  | op place action rest ih =>
    intro pos
    -- A breakpoint takes no position in the new numbering.
    by_cases broken : action = .breakpoint
    · simp only [unbroken, broken, if_true]
      exact .breakpoint (ih pos)
    · simp only [unbroken, broken, if_false]
      exact .op broken (ih _)
  | loop place body rest bodyIh restIh => exact fun _ => .loop (bodyIh _) (restIh _)

end Code

/-- A source without breakpoints compiles to code without breakpoints. -/
theorem not_mem_listing_of_compile {source : Bytes} {program : Program}
    (compiled : compile source = .ok program) (plain : ascii '!' ∉ source) :
    ascii '!' ∉ program.code.listing := by
  have listed : program.code.listing = withoutComments source := listing_of_compile compiled
  rw [listed]
  exact fun member => plain (List.mem_filter.mp member).1

/-- A source that compiles also compiles without its breakpoints, to the same instructions but for
the breakpoints and the positions. -/
theorem compile_withoutBreakpoints {source : Bytes} {program : Program}
    (compiled : compile source = .ok program) :
    ∃ plain, compile (withoutBreakpoints source) = .ok plain ∧
      program.code.Unbroken plain.code := by
  refine ⟨_, compile_congr ?_ (compile_listing program.code.unbroken),
    program.code.unbroken_numberedFrom 0⟩
  -- Comments and breakpoints may be deleted in either order.
  have listed : program.code.listing = withoutComments source := listing_of_compile compiled
  rw [Code.listing_unbroken, listed]
  simp only [withoutComments, withoutBreakpoints, List.filter_filter]
  refine List.filter_congr fun b _ => ?_
  cases isSymbol b <;> simp

end TapeMachine
