import TapeMachine.Proofs.Lint.Cancelling
import TapeMachine.Proofs.Lint.DeadLoop

/-! Programs without the dead loops that the lint reports: what is left still compiles, to the same
instructions but for those loops. -/

namespace TapeMachine

/-- Whether a position belongs to a dead loop that the lint reports, brackets included. -/
def isDead (program : Program) (pos : Nat) : Bool :=
  (lint program).any fun issue => issue.finding.kind = "DEAD_LOOP" &&
    (issue.pos ≤ pos && pos ≤ loopEndOf program.listing issue.pos)

/-- The listing of a program without the dead loops that the lint reports. -/
def withoutDeadLoops (program : Program) : Bytes := strike (isDead program) 0 program.listing

namespace Code

/-- The code without the loops in front of the first operation outside loops that can change a cell.
What is left keeps its positions. -/
def shed : Code → Code
  | done => done
  | loop _ _ rest => rest.shed
  | op pos action rest => op pos action (if action.writesTape then rest else rest.shed)

/-- Two sequences without breakpoints differ in nothing but positions. -/
inductive Copies : Code → Code → Prop
  /-- No instruction. -/
  | done : Copies done done
  /-- The same operation. -/
  | op {pos place : Nat} {action : Op} {rest copy : Code} (proper : action ≠ .breakpoint)
      (behind : Copies rest copy) : Copies (op pos action rest) (op place action copy)
  /-- Loops with the same body. -/
  | loop {pos place : Nat} {body rest copyBody copy : Code} (inside : Copies body copyBody)
      (behind : Copies rest copy) : Copies (loop pos body rest) (loop place copyBody copy)

/-- Two sequences without breakpoints differ in nothing but positions, and loops that only the first
one has, in front of the first operation that can change a cell. -/
inductive Sheds : Code → Code → Prop
  /-- No instruction. -/
  | done : Sheds done done
  /-- A loop is left out. -/
  | loop {pos : Nat} {body rest short : Code} (behind : Sheds rest short) :
      Sheds (loop pos body rest) short
  /-- An operation stays that changes no cell. -/
  | harmless {pos place : Nat} {action : Op} {rest short : Code}
      (harmless : action.writesTape = false) (proper : action ≠ .breakpoint)
      (behind : Sheds rest short) : Sheds (op pos action rest) (op place action short)
  /-- Behind an operation that can change a cell all loops stay. -/
  | writing {pos place : Nat} {action : Op} {rest short : Code} (writes : action.writesTape = true)
      (behind : Copies rest short) : Sheds (op pos action rest) (op place action short)

end Code

/-- The dead positions are those of the loops that the third check reports. -/
theorem isDead_iff (program : Program) (pos : Nat) :
    isDead program pos = true ↔ ∃ issue ∈ program.code.deadLoops,
      issue.pos ≤ pos ∧ pos ≤ loopEndOf program.listing issue.pos := by
  simp only [isDead, List.any_eq_true, Bool.and_eq_true, decide_eq_true_eq, ← mem_lint_deadLoop,
    and_assoc]

/-- Where every position is struck out nothing is left. -/
theorem strike_all {struck : Nat → Bool} (symbols : Bytes) :
    ∀ start, (∀ pos, start ≤ pos → pos < start + symbols.length → struck pos = true) →
      strike struck start symbols = [] := by
  -- Position and list go forward together.
  induction symbols with
  | nil => exact fun _ _ => rfl
  | cons symbol rest ih =>
    intro start all
    rw [List.length_cons] at all
    rw [strike, if_pos (all start (by omega) (by omega))]
    exact ih (start + 1) fun pos low high => all pos (by omega) (by omega)

/-- Where no position is struck out everything is left. -/
theorem strike_none {struck : Nat → Bool} (symbols : Bytes) :
    ∀ start, (∀ pos, start ≤ pos → pos < start + symbols.length → struck pos = false) →
      strike struck start symbols = symbols := by
  induction symbols with
  | nil => exact fun _ _ => rfl
  | cons symbol rest ih =>
    intro start none
    rw [List.length_cons] at none
    rw [strike_kept (none start (by omega) (by omega)),
      ih (start + 1) fun pos low high => none pos (by omega) (by omega)]

namespace Code

/-- Among the positions of some code just those of its dead loops are struck out. -/
def Deadened (listing : Bytes) (struck : Nat → Bool) (start : Nat) (code : Code) : Prop :=
  ∀ pos, start ≤ pos → pos < start + code.size →
    (struck pos = true ↔ ∃ issue ∈ code.deadLoops,
      issue.pos ≤ pos ∧ pos ≤ loopEndOf listing issue.pos)

namespace Deadened

variable {listing : Bytes} {struck : Nat → Bool} {pos : Nat} {rest : Code}

/-- From an operation on that can change a cell everything stays. -/
theorem writing {action : Op} (dead : Deadened listing struck pos (.op pos action rest))
    (writes : action.writesTape = true) (place : Nat) (low : pos ≤ place)
    (high : place < pos + rest.size + 1) : struck place = false := by
  simp only [Deadened, deadLoops, writes, if_true, size] at dead
  -- The code has no dead loop from here on, so no position of it is struck out.
  rw [Bool.eq_false_iff, Ne, dead place low (by omega)]
  rintro ⟨issue, member, -⟩
  cases member

/-- An operation that changes no cell stays. -/
theorem harmless {action : Op} (dead : Deadened listing struck pos (.op pos action rest))
    (harmless : ¬ action.writesTape = true) (behind : rest.LiesAt listing (pos + 1)) :
    struck pos = false ∧ Deadened listing struck (pos + 1) rest := by
  rw [Deadened, deadLoops, if_neg harmless, size] at dead
  constructor
  · -- The dead loops behind the operation start behind it.
    rw [Bool.eq_false_iff, Ne, dead pos (by omega) (by omega)]
    rintro ⟨issue, member, low, -⟩
    have later := rest.le_pos_of_mem_deadLoops behind member
    omega
  -- Behind it the same dead loops are left.
  · exact fun place low high => dead place (by omega) (by omega)

/-- A loop is struck out from bracket to bracket. -/
theorem loop {body : Code} (dead : Deadened listing struck pos (.loop pos body rest))
    (inside : body.LiesAt listing (pos + 1))
    (stop : listing[pos + body.size + 1]? = some loopEnd) :
    (∀ place, pos ≤ place → place < pos + body.size + 2 → struck place = true) ∧
      Deadened listing struck (pos + body.size + 2) rest := by
  rw [Deadened, deadLoops, size] at dead
  simp only [List.exists_mem_cons_iff, loopEndOf_eq inside stop] at dead
  constructor
  · intro place low high
    -- Between its brackets the loop itself strikes the positions out.
    exact (dead place low (by omega)).mpr (.inl ⟨low, by omega⟩)
  · intro place low high
    rw [dead place (by omega) (by omega)]
    constructor
    -- Behind its closing bracket the loop strikes nothing out any more.
    · rintro (⟨-, within⟩ | found)
      · omega
      · exact found
    · exact .inr

end Deadened

/-- Where just the dead loops of the code are struck out, what is left is the listing of the code
without them. -/
theorem strike_deadened {listing : Bytes} {struck : Nat → Bool} (code : Code) :
    ∀ {start : Nat}, code.LiesAt listing start → Deadened listing struck start code →
      strike struck start code.listing = code.shed.listing := by
  -- The induction is on the code, as the definition of what stays is.
  induction code with
  | done => exact fun _ _ => rfl
  | op pos action rest ih =>
    rintro start ⟨rfl, -, behind⟩ dead
    rw [shed, listing_op, listing_op]
    split
    · rename_i writes
      -- The first operation that can change a cell ends the part that is searched for dead loops.
      have kept := dead.writing writes
      rw [strike_kept (kept pos (by omega) (by omega)), strike_none]
      rw [length_listing]
      exact fun place low high => kept place (by omega) (by omega)
    · rename_i harmless
      obtain ⟨kept, later⟩ := dead.harmless harmless behind
      rw [strike_kept kept, ih behind later]
  | loop pos body rest _ ih =>
    rintro start ⟨rfl, -, inside, stop, behind⟩ dead
    obtain ⟨gone, later⟩ := dead.loop inside stop
    -- The whole loop is struck out, its two brackets included.
    have parts : (loop pos body rest).listing =
        (Opcode.loop.symbol :: body.listing ++ [loopEnd]) ++ rest.listing := by simp
    have width : pos + (Opcode.loop.symbol :: body.listing ++ [loopEnd]).length =
        pos + body.size + 2 := by simp [length_listing, Nat.add_assoc]
    rw [parts, strike_append, width, ih behind later, shed, strike_all, List.nil_append]
    rw [width]
    exact gone

/-- Counting the positions anew changes nothing else. -/
theorem copies_numberedFrom (code : Code) :
    ascii '!' ∉ code.listing → ∀ pos, Copies code (code.numberedFrom pos) := by
  induction code with
  | done => exact fun _ _ => .done
  | op place action rest ih =>
    intro plain pos
    rw [listing_op, List.mem_cons, not_or] at plain
    -- No symbol of the listing is a breakpoint, so this operation is none.
    exact .op (ne_breakpoint plain.1) (ih plain.2 _)
  | loop place body rest bodyIh restIh =>
    intro plain pos
    simp only [listing_loop, List.mem_cons, List.mem_append, not_or] at plain
    exact .loop (bodyIh plain.2.1 _) (restIh plain.2.2.2 _)

/-- Leaving the dead loops out and counting the positions anew changes nothing else. -/
theorem sheds_numberedFrom (code : Code) :
    ascii '!' ∉ code.listing → ∀ pos, Sheds code (code.shed.numberedFrom pos) := by
  induction code with
  | done => exact fun _ _ => .done
  | op place action rest ih =>
    intro plain pos
    rw [listing_op, List.mem_cons, not_or] at plain
    rw [shed]
    split
    · rename_i writes
      -- Behind an operation that can change a cell nothing is left out, before it every loop is.
      exact .writing writes (rest.copies_numberedFrom plain.2 _)
    · rename_i harmless
      exact .harmless (Bool.eq_false_iff.mpr harmless) (ne_breakpoint plain.1) (ih plain.2 _)
  | loop place body rest _ ih =>
    intro plain pos
    simp only [listing_loop, List.mem_cons, List.mem_append, not_or] at plain
    exact .loop (ih plain.2.2.2 pos)

end Code

/-- What the lint leaves of a listing is the listing of the code without its dead loops. -/
theorem withoutDeadLoops_eq {source : Bytes} {program : Program}
    (compiled : compile source = .ok program) :
    withoutDeadLoops program = program.code.shed.listing :=
  program.code.strike_deadened (code_liesAt_of_compile compiled) fun pos _ _ =>
    isDead_iff program pos

/-- A source without breakpoints that compiles also compiles without the dead loops that the lint
reports, to the same instructions but for those loops and the positions. -/
theorem compile_withoutDeadLoops {source : Bytes} {program : Program}
    (compiled : compile source = .ok program) (plain : ascii '!' ∉ source) :
    ∃ short, compile (withoutDeadLoops program) = .ok short ∧
      program.code.Sheds short.code := by
  have unbroken := not_mem_listing_of_compile compiled plain
  rw [withoutDeadLoops_eq compiled]
  -- What is left is a listing, and a listing compiles to its code with the positions counted anew.
  exact ⟨_, compile_listing _, program.code.sheds_numberedFrom unbroken 0⟩

end TapeMachine
