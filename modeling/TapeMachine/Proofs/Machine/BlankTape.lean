import TapeMachine.Proofs.Lint.DeadLoop
import TapeMachine.Proofs.Machine.Fault

/-! A tape stays blank until an operation outside all loops changes a cell, and until then every
loop is skipped. -/

namespace TapeMachine

/-- Every cell is zero. -/
def Tape.IsBlank (tape : Tape) : Prop := ∀ address, tape.cells.getD address 0 = 0

/-- Whether a tape is blank depends on its cells alone. -/
theorem Tape.IsBlank.congr {tape moved : Tape} (blank : tape.IsBlank)
    (same : moved.cells = tape.cells) : moved.IsBlank := by
  intro address
  rw [same]
  exact blank address

/-- A fresh tape is blank. -/
theorem Tape.isBlank_blank (length : Nat) : (blank length).IsBlank := by
  intro address
  simp only [blank, Array.getD_eq_getD_getElem?, Array.getElem?_replicate]
  split <;> rfl

/-- An operation that takes nothing in and does not count changes no cell. -/
theorem Op.cells_of_act {action : Op} (harmless : action.writesTape = false) {tape moved : Tape}
    (acted : action.act tape = .ok moved) : moved.cells = tape.cells := by
  -- The moves change the pointer only; the operations that write are excluded.
  cases action with
  | moveRight =>
    simp only [act, Tape.moveRight] at acted
    split at acted <;> cases acted
    rfl
  | moveLeft =>
    simp only [act, Tape.moveLeft] at acted
    split at acted <;> cases acted
    rfl
  | increment => cases harmless
  | decrement => cases harmless
  | input => cases harmless
  | output => cases acted; rfl
  | breakpoint => cases acted; rfl

namespace Code

/-- All instructions stand at a position or behind it. -/
def From (start : Nat) : Code → Prop
  | done => True
  | op pos _ rest => start ≤ pos ∧ rest.From start
  | loop pos body rest => start ≤ pos ∧ body.From start ∧ rest.From start

/-- A loop is still to come, and no operation in front of it changes a cell. -/
inductive Awaits (start stop : Nat) : Code → Prop
  /-- It comes next. -/
  | here {body rest : Code} (behind : rest.From stop) : Awaits start stop (loop start body rest)
  /-- It comes behind an operation. -/
  | op {pos : Nat} {action : Op} {rest : Code} (before : pos < start)
      (harmless : action.writesTape = false) (later : rest.Awaits start stop) :
      Awaits start stop (op pos action rest)
  /-- It comes behind another loop. -/
  | loop {pos : Nat} {body rest : Code} (before : pos < start) (later : rest.Awaits start stop) :
      Awaits start stop (loop pos body rest)

section

variable {listing : Bytes}

/-- What lies at a position of a listing stands there or behind. -/
theorem from_of_liesAt {start : Nat} (code : Code) :
    ∀ {place : Nat}, start ≤ place → code.LiesAt listing place → code.From start := by
  induction code with
  | done => exact fun _ _ => trivial
  | op pos action rest ih =>
    rintro place low ⟨rfl, -, behind⟩
    exact ⟨low, ih (by omega) behind⟩
  | loop pos body rest bodyIh restIh =>
    rintro place low ⟨rfl, -, inside, -, behind⟩
    exact ⟨low, bodyIh (by omega) inside, restIh (by omega) behind⟩

/-- A loop that the check for dead loops reports has its end, and nothing in front of it changes a
cell. -/
theorem awaits_of_mem_deadLoops {issue : Issue} (code : Code) :
    ∀ {start : Nat}, code.LiesAt listing start → issue ∈ code.deadLoops →
      Matching listing issue.pos (loopEndOf listing issue.pos) ∧
        code.Awaits issue.pos (loopEndOf listing issue.pos) := by
  -- What the check passes stands in front of all that it reports behind.
  induction code with
  | done =>
    intro start _ member
    cases member
  | op pos action rest ih =>
    rintro start ⟨rfl, -, behind⟩ member
    rw [deadLoops] at member
    split at member
    · cases member
    · rename_i harmless
      obtain ⟨matching, later⟩ := ih behind member
      -- The operation has been passed, so it is harmless.
      have low := rest.le_pos_of_mem_deadLoops behind member
      exact ⟨matching, .op low (Bool.eq_false_iff.mpr harmless) later⟩
  | loop pos body rest _ ih =>
    intro start lies member
    have matching := matching_of_liesAt lies
    obtain ⟨rfl, -, inside, stop, behind⟩ := lies
    rw [deadLoops] at member
    rcases List.mem_cons.mp member with rfl | member
    -- The loop is the reported one, or the reported one stands behind it.
    · refine ⟨matching, .here ?_⟩
      rw [loopEndOf_eq inside stop]
      exact from_of_liesAt rest (by omega) behind
    · obtain ⟨matching, later⟩ := ih behind member
      have low := rest.le_pos_of_mem_deadLoops behind member
      exact ⟨matching, .loop (by omega) later⟩

end

section

variable {start stop : Nat} {code : Code}

/-- Code that awaits a loop has not come to its end. -/
theorem Awaits.ne_done (awaits : code.Awaits start stop) : code ≠ .done := by
  rintro rfl
  cases awaits

/-- On the way to the loop every operation leaves the cells alone. -/
theorem Awaits.passed (awaits : code.Awaits start stop) {pos : Nat} {action : Op} {rest : Code}
    (next : code = .op pos action rest) :
    action.writesTape = false ∧ rest.Awaits start stop := by
  subst next
  cases awaits with
  | op before harmless later => exact ⟨harmless, later⟩

end

end Code

namespace Machine

/-- A machine is not inside the loop between two positions and does not come to be. -/
inductive Skips (start stop : Nat) (machine : Machine) : Prop
  /-- The loop is still to come, on a blank tape. -/
  | ahead (outside : machine.loops = []) (blank : machine.tape.IsBlank)
      (awaits : machine.code.Awaits start stop)
  /-- An outermost loop is about to be tested on a blank tape: the loop itself or one before. -/
  | tested {loop : ActiveLoop} (code : machine.code = .done) (loops : machine.loops = [loop])
      (blank : machine.tape.IsBlank)
      (later : loop.rest.Awaits start stop ∨ loop.rest.From stop)
  /-- All that is left lies behind the loop. -/
  | behind (code : machine.code.From stop)
      (loops : ∀ loop ∈ machine.loops, loop.body.From stop ∧ loop.rest.From stop)

section

variable {machine after : Machine} {start stop : Nat}

/-- The next instruction is not inside the loop. -/
theorem Skips.next (skips : machine.Skips start stop) {pos : Nat} {opcode : Opcode}
    (next : machine.next? = some (pos, opcode)) : ¬ (start < pos ∧ pos < stop) := by
  rw [next?] at next
  -- Ahead of the loop all is in front of its start, and behind it nothing is in front of its end.
  cases skips with
  | ahead outside blank awaits =>
    generalize machine.code = code at awaits next
    cases awaits with
    | here behind =>
      cases next
      omega
    | op before harmless later =>
      cases next
      omega
    | loop before later =>
      cases next
      omega
  | tested code loops blank later =>
    rw [code] at next
    cases next
  | behind left loops =>
    generalize machine.code = code at left next
    cases code with
    | done => cases next
    | op place action rest =>
      cases next
      have := left.1
      omega
    | loop place body rest =>
      cases next
      have := left.1
      omega

/-- Only code, loops and tape matter. -/
theorem Skips.congr (skips : machine.Skips start stop) (code : after.code = machine.code)
    (loops : after.loops = machine.loops) (tape : after.tape = machine.tape) :
    after.Skips start stop := by
  cases skips with
  | ahead outside blank awaits =>
    exact .ahead (loops.trans outside) (tape ▸ blank) (code ▸ awaits)
  | tested empty around blank later =>
    exact .tested (code.trans empty) (loops.trans around) (tape ▸ blank) later
  | behind left around => exact .behind (code ▸ left) (loops ▸ around)

/-- What leaves the place and the tape alone keeps the machine on its way past the loop. -/
theorem Skips.untouched (skips : machine.Skips start stop) (kept : machine.Untouched after) :
    after.Skips start stop := skips.congr kept.code kept.loops kept.tape

/-- An operation that takes nothing in and does not count leaves the cells as they are, and it does
not wait. -/
theorem Executes.harmless (executes : machine.Executes after) {pos : Nat} {action : Op}
    {rest : Code} (code : machine.code = .op pos action rest)
    (harmless : action.writesTape = false) :
    after.tape.cells = machine.tape.cells ∧ after.status ≠ .asking := by
  -- Input is the one operation that waits, and it changes a cell.
  have other {place : Nat} {behind : Code} : machine.code ≠ .op place .input behind := by
    intro found
    cases found.symm.trans code
    cases harmless
  cases executes with
  | enters found => cases found.symm.trans code
  | acts found onTape act =>
    cases found.symm.trans code
    exact ⟨Op.cells_of_act harmless act, nofun⟩
  | faults found onTape act => exact ⟨rfl, nofun⟩
  | writes found => exact ⟨rfl, nofun⟩
  | unwritten found => exact ⟨rfl, nofun⟩
  | takes found held => exact absurd found other
  | asks found spent => exact absurd found other
  | unasked found spent => exact ⟨rfl, nofun⟩
  | breaks found => exact ⟨congrArg Tape.cells (untouched_setMode _ _).tape, nofun⟩

/-- In front of the loop an instruction leaves the tape blank, and no loop is in the way. -/
theorem Executes.skips (executes : machine.Executes after) (outside : machine.loops = [])
    (blank : machine.tape.IsBlank) (awaits : machine.code.Awaits start stop) :
    after.Skips start stop := by
  have still (pos : Nat) (opcode : Opcode) : (machine.begin pos opcode).Skips start stop :=
    .ahead outside blank awaits
  have kept {pos : Nat} {action : Op} {rest : Code} (code : machine.code = .op pos action rest) :
      after.tape.IsBlank :=
    blank.congr (executes.harmless code (awaits.passed code).1).1
  cases executes with
  | @enters pos body rest code =>
    -- A loop that is entered is the awaited one or stands in front of it; either is tested next.
    rw [code] at awaits
    have around : (machine.entered pos body rest).loops = [⟨body, rest⟩] := by
      rw [entered, outside]
    cases awaits with
    | here behind => exact .tested rfl around blank (.inr behind)
    | loop before later => exact .tested rfl around blank (.inl later)
  | acts code onTape act => exact .ahead outside (kept code) (awaits.passed code).2
  | faults code onTape act => exact (still _ _).untouched (untouched_halt _ _)
  | writes code => exact .ahead outside (kept code) (awaits.passed code).2
  | unwritten code => exact (still _ _).untouched (untouched_halt _ _)
  | takes code held => cases (awaits.passed code).1
  | asks code spent => exact (still _ _).untouched (untouched_await _)
  | unasked code spent => exact (still _ _).untouched (untouched_halt _ _)
  | breaks code =>
    refine .ahead ?_ (kept code) (awaits.passed code).2
    exact (untouched_setMode _ _).loops.trans outside

/-- Only an instruction can be executed. -/
theorem Executes.ne_done (executes : machine.Executes after) : machine.code ≠ .done := by
  intro done
  obtain ⟨pos, opcode, next, -⟩ := executes.execution
  rw [next?, done] at next
  cases next

/-- Behind the loop no move leads back. -/
theorem Shift.skips (shift : machine.Shift after) (left : machine.code.From stop)
    (around : ∀ loop ∈ machine.loops, loop.body.From stop ∧ loop.rest.From stop) :
    after.Skips start stop := by
  -- What comes next has been in the code or in one of the loops around it.
  cases shift with
  | rest code loops => exact .behind (code ▸ left) (loops ▸ around)
  | left code loops behind =>
    rw [loops, List.forall_mem_cons] at around
    exact .behind (behind ▸ around.1.2) around.2
  | again code enclosing loops inside =>
    refine .behind ?_ (loops ▸ around)
    rw [enclosing, List.forall_mem_cons] at around
    exact inside ▸ around.1.1
  | entered code inside loops =>
    rw [code] at left
    refine .behind (inside ▸ trivial) ?_
    rw [loops, List.forall_mem_cons]
    exact ⟨left.2, around⟩
  | executed code steps loops near behind =>
    refine .behind ?_ (loops ▸ around)
    rcases behind with ⟨done, -⟩ | ⟨same, -⟩
    · rw [code] at left
      exact done ▸ left.2
    · exact same ▸ left
  | completed code waited steps loops near behind =>
    rw [code] at left
    exact .behind (behind ▸ left.2) (loops ▸ around)

end

end Machine

namespace Session

variable {session : Session} {after : Machine} {start stop : Nat}

/-- In front of the loop nothing but the next instruction goes on. -/
theorem Deed.skips_ahead (deed : session.Deed after) (outside : session.machine.loops = [])
    (blank : session.machine.tape.IsBlank) (awaits : session.machine.code.Awaits start stop) :
    after.Skips start stop := by
  have next := awaits.ne_done
  have still : session.machine.bare.Skips start stop := .ahead outside blank awaits
  have noted (entry : Entry) := still.untouched (session.machine.bare.untouched_recordEntry entry)
  cases deed with
  | advances ready advances =>
    cases advances with
    -- A loop is still to come, so the code has not come to its end.
    | leaves code loops zero => exact absurd code next
    | repeats code loops nonzero allowed => exact absurd code next
    | cut code around nonzero refused => exact absurd code next
    | ends code outside last => exact absurd code next
    | stops code debugging => exact still.untouched (Machine.untouched_pause _)
    | unprompted code debugging => exact still.untouched (Machine.untouched_halt _ _)
    | executes running executes => exact executes.skips outside blank awaits
  | hears stopped handed hears =>
    cases hears with
    | replies text => exact (noted _).untouched (Machine.untouched_pause _)
    | unprompted text => exact (noted _).untouched (Machine.untouched_halt _ _)
    | goesOn heard executes =>
      have kept := heard.untouched
      exact executes.skips (kept.loops.trans outside)
        (blank.congr (congrArg Tape.cells kept.tape)) (kept.code ▸ awaits)
    | failed reason => exact (noted _).untouched (Machine.untouched_halt _ _)
    | cancelled => exact (noted _).congr rfl rfl rfl
  | takes asking handed spent code takes => cases (awaits.passed code).1
  | rests halted => exact still

/-- On a blank tape the test of an outermost loop leaves it. -/
theorem Deed.skips_tested (deed : session.Deed after) (attentive : session.machine.Attentive)
    {loop : ActiveLoop} (done : session.machine.code = .done)
    (around : session.machine.loops = [loop]) (blank : session.machine.tape.IsBlank)
    (later : loop.rest.Awaits start stop ∨ loop.rest.From stop) : after.Skips start stop := by
  have cell : session.machine.tape.cell = 0 := blank _
  cases deed with
  | advances ready advances =>
    cases advances with
    | leaves code loops zero =>
      cases loops.symm.trans around
      -- Behind the loop that is left comes the awaited one, or that was the loop.
      rcases later with awaits | past
      · exact .ahead rfl blank awaits
      · exact .behind past nofun
    | repeats code loops nonzero allowed => exact absurd cell nonzero
    | cut code loops nonzero refused => exact absurd cell nonzero
    | ends code outside last => cases outside.symm.trans around
    | stops next debugging => exact absurd done next
    | unprompted next debugging => exact absurd done next
    | executes running executes => exact absurd done executes.ne_done
  | hears stopped handed hears => exact absurd done (attentive.stopped stopped)
  | takes asking handed spent code takes => cases code.symm.trans done
  | rests halted => exact .tested done around blank later

/-- A machine that is not inside the loop does not come to be by a move. -/
theorem skips_step (attentive : session.machine.Attentive)
    (skips : session.machine.Skips start stop) : session.step.machine.Skips start stop := by
  have deed := deed_step attentive
  -- One lemma for each of the three places; the output makes no difference.
  cases skips with
  | ahead outside blank awaits => exact (deed.skips_ahead outside blank awaits).congr rfl rfl rfl
  | tested done around blank later =>
    exact (deed.skips_tested attentive done around blank later).congr rfl rfl rfl
  | behind left around => exact session.shift_step.skips left around

/-- No instruction inside the loop has started, and none starts. -/
theorem skips_iterate {blueprint : Blueprint} (awaits : blueprint.program.code.Awaits start stop)
    (script : List Entry) (moves : Nat) :
    (step^[moves] ⟨blueprint.machine, script⟩).machine.Skips start stop ∧
      ∀ pos opcode steps place cell mode, .exec pos opcode steps place cell mode ∈
        (step^[moves] ⟨blueprint.machine, script⟩).machine.told Event.execution →
        ¬ (start < pos ∧ pos < stop) := by
  -- A move starts the next instruction or none, and the next one is not inside.
  induction moves with
  | zero => exact ⟨.ahead rfl (Tape.isBlank_blank _) awaits, nofun⟩
  | succ moves ih =>
    obtain ⟨skips, earlier⟩ := ih
    have attentive : (step^[moves] ⟨blueprint.machine, script⟩).machine.Attentive :=
      (Reaches.refl.iterate moves).attentive
    rw [Function.iterate_succ_apply']
    generalize step^[moves] ⟨blueprint.machine, script⟩ = session at *
    refine ⟨skips_step attentive skips, ?_⟩
    cases halted : session.machine.isHalted with
    | true =>
      rw [session.step_of_halted halted]
      exact earlier
    | false =>
      cases starts_step attentive halted with
      | none unstarted =>
        -- The events grow by one start at most.
        rw [unstarted.told]
        exact earlier
      | one started kept next executes =>
        obtain ⟨place, opcode, ahead, begun⟩ := started.execution_execute next
        rw [executes, begun, kept.execution]
        intro pos other steps pointer cell mode member
        rcases List.mem_append.mp member with member | member
        · exact earlier _ _ _ _ _ _ member
        · cases List.mem_singleton.mp member
          exact (skips.untouched kept).next ahead

end Session

end TapeMachine
