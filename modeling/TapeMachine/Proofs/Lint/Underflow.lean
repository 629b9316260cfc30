import TapeMachine.Lint.Report
import TapeMachine.Proofs.Lint.Checks
import TapeMachine.Proofs.Machine.Growth
import TapeMachine.Proofs.Machine.Passage
import TapeMachine.Proofs.Machine.Safety
import Mathlib.Data.List.Infix

/-! The underflow check: a program that it complains about is certain to fail, and a program without
loops that it does not complain about never moves the data pointer below the first cell. -/

namespace TapeMachine

/-- The issues about an underflow. -/
def underflows (issues : Array Issue) : List Issue :=
  issues.toList.filter fun issue => issue.finding.kind = "UNDERFLOW"

/-- Only the check of the pointer looks for underflows. -/
theorem underflows_issuesByCheck (code : Code) :
    underflows code.issuesByCheck.toArray = (code.underflowFrom 0).toList := by
  have first : ∀ issue ∈ (code.underflowFrom 0).toList, issue.finding.kind = "UNDERFLOW" :=
    fun issue found => code.kind_of_underflowFrom 0 (Option.mem_toList.mp found)
  -- The other checks have names of their own for what they find.
  have others : ∀ issue ∈ code.deadLoops ++ code.spots 0, issue.finding.kind ≠ "UNDERFLOW" := by
    intro issue member kind
    rcases List.mem_append.mp member with member | member
    · simp [code.kind_of_mem_deadLoops issue member] at kind
    · have known := code.kind_of_mem_spots 0 issue member
      simp [kind] at known
  rw [underflows, Code.issuesByCheck_eq, List.filter_append,
    List.filter_eq_self.mpr fun issue found => decide_eq_true (first issue found),
    List.filter_eq_nil_iff.mpr fun issue member => by simpa using others issue member,
    List.append_nil]

/-- The lint reports an underflow at a position. -/
def ReportsUnderflow (program : Program) (pos : Nat) : Prop :=
  ∃ issue ∈ lint program, issue.finding.kind = "UNDERFLOW" ∧ issue.pos = pos

/-- The lint reports the underflow that the check of the pointer finds, and no other. -/
theorem mem_lint_underflow (program : Program) (issue : Issue) :
    issue ∈ lint program ∧ issue.finding.kind = "UNDERFLOW" ↔
      program.code.underflowFrom 0 = some issue := by
  rw [← Option.mem_toList, ← underflows_issuesByCheck]
  simp [lint, underflows]

/-- An underflow is reported exactly if the check of the pointer finds one there. -/
theorem reportsUnderflow_iff (program : Program) (pos : Nat) :
    ReportsUnderflow program pos ↔
      ∃ issue, program.code.underflowFrom 0 = some issue ∧ issue.pos = pos := by
  simp only [ReportsUnderflow, ← and_assoc, mem_lint_underflow]

/-- A report has errors exactly if it reports an underflow. -/
theorem hasErrors_iff (name : Bytes) (program : Program) :
    (Report.ofProgram name program).hasErrors = true ↔ ∃ pos, ReportsUnderflow program pos := by
  have severe (finding : Finding) : finding.severity = .error ↔ finding.kind = "UNDERFLOW" := by
    cases finding <;> simp [Finding.severity, Finding.kind]
  simp [Report.hasErrors, Report.errors, Report.withSeverity, Report.ofProgram, severe,
    ReportsUnderflow]

/-- How far an operation moves the data pointer to the right. -/
def Op.offset : Op → Int
  | moveRight => 1
  | moveLeft => -1
  | _ => 0

/-- How far the moves among some symbols take the data pointer to the right. -/
def drift (symbols : Bytes) : Int :=
  symbols.count Op.moveRight.symbol - symbols.count Op.moveLeft.symbol

/-- The symbol of an operation adds its part to the drift. -/
theorem drift_take {listing : Bytes} {pos : Nat} {action : Op}
    (here : listing[pos]? = some action.symbol) :
    drift (listing.take (pos + 1)) = drift (listing.take pos) + action.offset := by
  -- Each symbol counts on its own.
  have single : drift [action.symbol] = action.offset := by cases action <;> rfl
  rw [List.take_add_one, here, Option.toList_some, ← single]
  simp only [drift, List.count_append]
  omega

/-- A move that succeeds takes the pointer as far as it says. -/
theorem Op.pointer_of_shift {action : Op} {tape moved : Tape}
    (shift : action.shift tape = .ok moved) :
    (moved.pointer : Int) = tape.pointer + action.offset := by
  cases action with
  | moveRight =>
    simp only [Op.shift, Tape.moveRight] at shift
    split at shift
    · cases shift
      simp [Op.offset]
    · cases shift
  | moveLeft =>
    simp only [Op.shift, Tape.moveLeft] at shift
    split at shift
    · cases shift
      simp only [Op.offset]
      omega
    · cases shift
  | _ =>
    cases shift
    simp [Op.offset]

/-- A move fails behind the last cell or in front of the first one. -/
theorem Op.fault_of_shift {action : Op} {tape : Tape} {fault : PointerFault}
    (shift : action.shift tape = .error fault) :
    (action = .moveRight ∧ fault = .overflow ∧ tape.length ≤ tape.pointer + 1) ∨
      (action = .moveLeft ∧ fault = .underflow ∧ tape.pointer = 0) := by
  cases action with
  | moveRight =>
    simp only [Op.shift, Tape.moveRight] at shift
    split at shift
    · cases shift
    · cases shift
      exact .inl ⟨rfl, rfl, by omega⟩
  | moveLeft =>
    simp only [Op.shift, Tape.moveLeft] at shift
    split at shift
    · cases shift
    · cases shift
      exact .inr ⟨rfl, rfl, by omega⟩
  | _ => cases shift

namespace Code

/-- The check follows each operation, and complains about a move to the left below cell 0. -/
theorem underflowFrom_op (offset : Int) (pos : Nat) (action : Op) (rest : Code) :
    (Code.op pos action rest).underflowFrom offset =
      if action = .moveLeft ∧ offset + action.offset < 0 then
        some ⟨pos, 0, .underflow (offset + action.offset)⟩
      else rest.underflowFrom (offset + action.offset) := by
  cases action <;> simp [underflowFrom, Op.offset]; rfl

/-- Where the pointer of a machine can follow, the check goes on with that pointer. -/
theorem underflowFrom_of_shift {action : Op} {tape moved : Tape}
    (shift : action.shift tape = .ok moved) (pos : Nat) (rest : Code) :
    (Code.op pos action rest).underflowFrom tape.pointer = rest.underflowFrom moved.pointer := by
  have pointer := Op.pointer_of_shift shift
  rw [underflowFrom_op, ← pointer, if_neg]
  omega

/-- The check finds nothing in front of the code that it looks at. -/
theorem pos_le_of_underflowFrom {listing : Bytes} {issue : Issue} (code : Code) :
    ∀ {pos : Nat} {offset : Int}, code.LiesAt listing pos →
      code.underflowFrom offset = some issue → pos ≤ issue.pos := by
  induction code with
  | done => intro pos offset _ found; cases found
  | loop => intro pos offset _ found; cases found
  | op place action rest ih =>
    rintro pos offset ⟨rfl, -, behind⟩ found
    rw [underflowFrom_op] at found
    split at found
    · cases found
      exact Nat.le_refl _
    · have later := ih behind found
      omega

/-- A pointer that starts further to the right gets into no trouble either. -/
theorem underflowFrom_mono (code : Code) :
    ∀ {offset further : Int}, offset ≤ further → code.underflowFrom offset = none →
      code.underflowFrom further = none := by
  induction code with
  | done => exact fun _ _ => rfl
  | loop => exact fun _ _ => rfl
  | op pos action rest ih =>
    intro offset further le clear
    -- Both pointers move alike, so the distance between them stays the same.
    rw [underflowFrom_op] at clear ⊢
    split at clear
    · cases clear
    · rename_i above
      rw [if_neg fun below => above ⟨below.1, by omega⟩]
      exact ih (by omega) clear

end Code

/-- A session under way to an underflow that the check has found: the code that is left lies at a
position of the listing, and the pointer is where the moves in front of that position take it. -/
structure Doomed (listing : Bytes) (issue : Issue) (pos : Nat) (session : Session) : Prop where
  underWay : session.machine.UnderWay
  lies : session.machine.code.LiesAt listing pos
  found : session.machine.code.underflowFrom session.machine.tape.pointer = some issue
  pointer : (session.machine.tape.pointer : Int) = drift (listing.take pos)

/-- What can keep a machine from coming to the underflow: a sink that fails, a line source that
fails, or a tape that is too short. -/
def Disturbed (listing : Bytes) (issue : Issue) (script : List Entry) (machine : Machine) : Prop :=
  machine.writer.failed = true ∨ (∃ entry ∈ script, entry.isOrderly = false) ∨
    ∃ part, part <+: listing.take issue.pos ∧ (machine.tape.length : Int) ≤ drift part

namespace Doomed

variable {listing : Bytes} {issue : Issue} {pos : Nat} {session : Session}

/-- One move brings the underflow nearer or ends the run, and it ends with the underflow unless
something has disturbed it. -/
theorem step (doomed : Doomed listing issue pos session) :
    (∃ next, Doomed listing issue next session.step ∧ session.step.rank < session.rank) ∨
    ∃ error, session.step.machine.status = .halted (some error) ∧
      (error = .pointer issue.pos (.basic .moveLeft) 0 .underflow ∨
        Disturbed listing issue session.script session.step.machine) := by
  have found := doomed.found
  -- The check stops at the end of the code and at a loop, so there is an operation to look at.
  cases code : session.machine.code with
  | done => simp [code, Code.underflowFrom] at found
  | loop => simp [code, Code.underflowFrom] at found
  | op place action rest =>
    have lies := doomed.lies
    rw [code] at found lies
    obtain ⟨rfl, here, behind⟩ := lies
    -- The machine waits in front of the operation, passes it, or ends the run.
    have passage := session.passage_step doomed.underWay code
    have underWay := passage.underWay code
    have nearer := session.rank_step code passage
    cases passage with
    | waits same loops tape waiting sooner =>
      have running : session.step.machine.isHalted = false := by
        rcases waiting with status | ⟨status, -⟩ <;> simp [Machine.isHalted, status]
      refine .inl ⟨place, ⟨underWay running, ?_, ?_, ?_⟩, nearer running⟩
      · rw [same]
        exact doomed.lies
      · rw [same, tape]
        exact doomed.found
      · rw [tape]
        exact doomed.pointer
    | passes shift pointer length next loops status =>
      have running : session.step.machine.isHalted = false := by simp [Machine.isHalted, status]
      refine .inl ⟨place + 1, ⟨underWay running, ?_, ?_, ?_⟩, nearer running⟩
      · rw [next]
        exact behind
      · rw [next, pointer, ← Code.underflowFrom_of_shift shift]
        exact found
      · rw [pointer, drift_take here, Op.pointer_of_shift shift, doomed.pointer]
    | faults shift status =>
      refine .inr ⟨_, status, ?_⟩
      rw [Code.underflowFrom_op] at found
      rcases Op.fault_of_shift shift with ⟨rfl, rfl, short⟩ | ⟨rfl, rfl, zero⟩
      · -- The tape ends in front of the underflow.
        simp only [reduceCtorEq, false_and, if_false] at found
        have later := Code.pos_le_of_underflowFrom rest behind found
        refine .inr (.inr (.inr ⟨listing.take (place + 1), ?_, ?_⟩))
        · exact List.take_prefix_take_left (by omega)
        · rw [session.shift_step.near.length, drift_take here, ← doomed.pointer, Op.offset]
          omega
      · -- The check and the machine meet at the same move.
        simp only [zero, Op.offset] at found
        cases found
        simp [zero]
    | breaks status foreign cause =>
      refine .inr ⟨_, status, .inr ?_⟩
      rcases cause with failed | ⟨entry, handed, disorder⟩
      · exact .inl failed
      · exact .inr (.inl ⟨entry, Session.mem_of_handed handed disorder, disorder⟩)

/-- The run ends with an error, and it is the underflow unless something has disturbed the run. -/
theorem run (bound : Nat) :
    ∀ {session : Session} {pos : Nat}, Doomed listing issue pos session → session.rank < bound →
      ∃ moves error, (Session.step^[moves] session).machine.status = .halted (some error) ∧
        (error = .pointer issue.pos (.basic .moveLeft) 0 .underflow ∨
          Disturbed listing issue session.script (Session.step^[moves] session).machine) := by
  -- The rank of the session bounds the moves that are left.
  induction bound with
  | zero =>
    intro session pos _ low
    omega
  | succ bound ih =>
    intro session pos doomed low
    rcases doomed.step with ⟨next, still, nearer⟩ | ⟨error, ended, why⟩
    · obtain ⟨moves, error, ended, why⟩ := ih still (by omega)
      refine ⟨moves + 1, error, ended, why.imp id ?_⟩
      -- What the script held later, it held from the beginning.
      refine Or.imp id (Or.imp ?_ id)
      rintro ⟨entry, member, disorder⟩
      exact ⟨entry, Session.mem_script_of_step member, disorder⟩
    · exact ⟨1, error, ended, why⟩

end Doomed

/-- No move changes the length of the tape. -/
theorem Session.length_iterate (session : Session) (moves : Nat) :
    (Session.step^[moves] session).machine.tape.length = session.machine.tape.length := by
  induction moves with
  | zero => rfl
  | succ moves ih =>
    rw [Function.iterate_succ_apply', (Session.shift_step _).near.length, ih]

/-- A machine in code without loops on which the check finds no underflow. -/
structure Machine.Steady (machine : Machine) : Prop where
  underWay : machine.UnderWay
  straight : Opcode.loop.symbol ∉ machine.code.listing
  loops : machine.loops = []
  clear : machine.code.underflowFrom machine.tape.pointer = none

/-- Whether a run ended below the first cell. -/
def Machine.Underflowed (machine : Machine) : Prop :=
  ∃ pos opcode place, machine.error? = some (.pointer pos opcode place .underflow)

/-- One move leaves a steady machine steady, or ends the run without an underflow. -/
theorem Session.steady_step {session : Session} (steady : session.machine.Steady) :
    session.step.machine.Steady ∨
      session.step.machine.isHalted = true ∧ ¬ session.step.machine.Underflowed := by
  have straight := steady.straight
  have clear := steady.clear
  cases code : session.machine.code with
  | done =>
    -- At the end of the program the run is over, and at most the sink has failed.
    have ready : session.machine.status = .ready := by
      rcases steady.underWay with ready | ⟨_, _, _, next, -⟩
      · exact ready
      · rw [code] at next
        cases next
    have ended : session.step.machine = session.machine.finish none := by
      simp only [Session.step, ready, Machine.advance, code, steady.loops]
    refine .inr ⟨by rw [ended]; rfl, ?_⟩
    rintro ⟨pos, opcode, place, error⟩
    rw [ended] at error
    simp only [Machine.error?, Machine.finish, Machine.record, Option.isNone_none,
      Bool.true_and] at error
    split at error <;> cases error
  | loop pos body rest => simp [code] at straight
  | op pos action rest =>
    rw [code] at straight clear
    have behind : Opcode.loop.symbol ∉ rest.listing := fun member =>
      straight (by simp [member])
    have passage := session.passage_step steady.underWay code
    have underWay := passage.underWay code
    cases passage with
    | waits same loops tape waiting sooner =>
      have running : session.step.machine.isHalted = false := by
        rcases waiting with status | ⟨status, -⟩ <;> simp [Machine.isHalted, status]
      refine .inl ⟨underWay running, ?_, loops.trans steady.loops, ?_⟩
      · rw [same]
        exact steady.straight
      · rw [same, tape]
        exact steady.clear
    | passes shift pointer length next loops status =>
      have running : session.step.machine.isHalted = false := by simp [Machine.isHalted, status]
      refine .inl ⟨underWay running, ?_, loops.trans steady.loops, ?_⟩
      · rw [next]
        exact behind
      · rw [next, pointer, ← Code.underflowFrom_of_shift shift]
        exact clear
    | faults shift status =>
      refine .inr ⟨by simp [Machine.isHalted, status], ?_⟩
      rintro ⟨pos, opcode, place, error⟩
      simp only [Machine.error?, status, Option.some.injEq, RunError.pointer.injEq] at error
      rcases Op.fault_of_shift shift with ⟨-, rfl, -⟩ | ⟨rfl, -, zero⟩
      · cases error.2.2.2
      · -- The check would have complained about this move.
        simp [Code.underflowFrom_op, zero, Op.offset] at clear
    | breaks status foreign cause =>
      refine .inr ⟨by simp [Machine.isHalted, status], ?_⟩
      rintro ⟨pos, opcode, place, error⟩
      simp only [Machine.error?, status, Option.some.injEq] at error
      exact foreign _ _ _ _ error

/-- Whatever a machine without loops comes to that the check has not complained about, also in
further runs, it has not ended below the first cell. -/
theorem Session.Reaches.not_underflowed {blueprint : Blueprint} {script : List Entry}
    (straight : Opcode.loop.symbol ∉ blueprint.program.listing)
    (clear : blueprint.program.code.underflowFrom 0 = none) {session : Session}
    (reached : Session.Reaches ⟨blueprint.machine, script⟩ session) :
    session.machine.Steady ∨ session.machine.isHalted = true ∧ ¬ session.machine.Underflowed := by
  induction reached with
  | refl => exact .inl ⟨.inl rfl, straight, rfl, clear⟩
  | @step session reached ih =>
    rcases ih with steady | ⟨halted, fine⟩
    · exact session.steady_step steady
    · rw [session.step_of_halted halted]
      exact .inr ⟨halted, fine⟩
  | @rerun session cancellation reached _ _ =>
    -- The pointer stays where it was, which is not further to the left than in the first run.
    have program : session.machine.program = blueprint.program := congrArg Prod.fst reached.fixed
    refine .inl ⟨.inl rfl, ?_, rfl, ?_⟩
    · simp only [Session.rerun, Session.restart, Machine.restart, program]
      exact straight
    · simp only [Session.rerun, Session.restart, Machine.restart, program]
      exact Code.underflowFrom_mono _ (by omega) clear

/-- The underflow check is sound, and complete without loops. If it complains about a position,
every run of a fresh machine ends with an error, and the error is the underflow at that position
unless the line source fails, the sink fails, or the tape is not longer than the moves in front of
the position need. If it does not complain and there is no loop, no run ends with an underflow, not
even a further one on the same machine. The report has errors exactly if the check complains. -/
theorem underflow_check_sound {source : Bytes} {program : Program}
    (compiled : compile source = .ok program) :
    (∀ pos, ReportsUnderflow program pos → ∀ blueprint : Blueprint, blueprint.program = program →
      ∀ script : List Entry,
        (∃ moves error, (Session.run moves ⟨blueprint.machine, script⟩).machine.status =
          .halted (some error)) ∧
        ((∀ entry ∈ script, entry.isOrderly = true) →
          (∀ moves, (Session.run moves ⟨blueprint.machine, script⟩).machine.writer.failed = false) →
          (∀ part, part <+: program.listing.take pos → drift part < blueprint.tapeLength) →
          ∃ moves, (Session.run moves ⟨blueprint.machine, script⟩).machine.status =
            .halted (some (.pointer pos (.basic .moveLeft) 0 .underflow)))) ∧
    (Opcode.loop.symbol ∉ program.listing → (∀ pos, ¬ ReportsUnderflow program pos) →
      ∀ blueprint : Blueprint, blueprint.program = program → ∀ script session,
        Session.Reaches ⟨blueprint.machine, script⟩ session → ¬ session.machine.Underflowed) ∧
    ∀ name, (Report.ofProgram name program).hasErrors = true ↔
      ∃ pos, ReportsUnderflow program pos := by
  refine ⟨?_, ?_, fun name => hasErrors_iff name program⟩
  · rintro pos reported blueprint rfl script
    obtain ⟨issue, found, rfl⟩ := (reportsUnderflow_iff _ _).mp reported
    simp only [Session.run_eq_iterate]
    have doomed : Doomed blueprint.program.listing issue 0 ⟨blueprint.machine, script⟩ :=
      ⟨.inl rfl, code_liesAt_of_compile compiled, found, rfl⟩
    obtain ⟨moves, error, ended, why⟩ := doomed.run _ (Nat.lt_succ_self _)
    refine ⟨⟨moves, error, ended⟩, fun orderly sound roomy => ⟨moves, ?_⟩⟩
    -- Each of the disturbances is excluded.
    rcases why with rfl | failed | ⟨entry, member, disorder⟩ | ⟨part, before, short⟩
    · exact ended
    · rw [sound moves] at failed
      cases failed
    · rw [orderly entry member] at disorder
      cases disorder
    · have enough := roomy part before
      rw [Session.length_iterate] at short
      simp only [Blueprint.machine, Tape.blank, Tape.length, Array.size_replicate] at short
      omega
  · rintro straight silent blueprint rfl script session reached
    -- Silence of the report is silence of the check.
    have clear : blueprint.program.code.underflowFrom 0 = none := by
      by_contra complaint
      obtain ⟨issue, found⟩ := Option.ne_none_iff_exists'.mp complaint
      exact silent issue.pos ((reportsUnderflow_iff _ _).mpr ⟨issue, found, rfl⟩)
    rcases reached.not_underflowed straight clear with steady | ⟨-, fine⟩
    · -- A machine under way has not ended at all.
      rintro ⟨pos, opcode, place, error⟩
      rcases steady.underWay with status | ⟨_, _, _, -, status | ⟨status, -⟩⟩ <;>
        simp [Machine.error?, status] at error
    · exact fine

/-- A breakpoint, the console and an input instruction in front of it do not keep a program from the
underflow; and a program that comes back to the first cell has none. -/
theorem underflow_check_sound_console :
    let program : Program := ⟨.op 0 .breakpoint (.op 1 .moveRight (.op 2 .input
      (.op 3 .moveLeft (.op 4 .moveLeft .done)))), 5, 0⟩
    let blueprint : Blueprint := { Blueprint.ofProgram program with tapeLength := 2 }
    let script : List Entry :=
      [.line (utf8 "i"), .line (utf8 "n"), .line (utf8 "q"), .line (utf8 "x")]
    let steady : Blueprint := Blueprint.ofProgram ⟨.op 0 .moveRight (.op 1 .moveLeft .done), 2, 0⟩
    ReportsUnderflow program 4 ∧
      (∃ moves, (Session.run moves ⟨blueprint.machine, script⟩).machine.status =
        .halted (some (.pointer 4 (.basic .moveLeft) 0 .underflow))) ∧
      ∀ session, Session.Reaches ⟨steady.machine, []⟩ session → ¬ session.machine.Underflowed := by
  intro program blueprint script steady
  have compiled : compile (utf8 "!>,<<") = .ok program := rfl
  have other : compile (utf8 "><") = .ok steady.program := rfl
  have reported : ReportsUnderflow program 4 :=
    (reportsUnderflow_iff program 4).mpr ⟨⟨4, 0, .underflow (-1)⟩, rfl, rfl⟩
  have silent : ∀ pos, ¬ ReportsUnderflow steady.program pos := by
    intro pos complaint
    obtain ⟨issue, found, -⟩ := (reportsUnderflow_iff _ pos).mp complaint
    cases found
  -- The sink takes everything, and the moves in front of the underflow need two cells.
  have sound : ∀ moves,
      (Session.run moves ⟨blueprint.machine, script⟩).machine.writer.failed = false := by
    intro moves
    have endless : blueprint.machine.Measured none := blueprint.measured
    have still := (Session.grows_iterate ⟨blueprint.machine, script⟩ moves).measured endless
    rw [Session.run_eq_iterate]
    exact still.sound
  have roomy : ∀ part ∈ (program.listing.take 4).inits, drift part < blueprint.tapeLength := by
    decide +kernel
  refine ⟨reported, ?_, ?_⟩
  · exact ((underflow_check_sound compiled).1 4 reported blueprint rfl script).2 (by decide) sound
      fun part before => roomy part ((List.mem_inits _ _).mpr before)
  · exact (underflow_check_sound other).2.1 (by decide +kernel) silent steady rfl []

end TapeMachine
