import TapeMachine.Proofs.Lint.FlatScan
import TapeMachine.Proofs.Machine.Fault

/-! Loops without a body: one that is entered on a non-zero cell never ends by itself, and where
none is entered so, every pass of a loop executes an instruction. -/

namespace TapeMachine

/-- The lint reports a loop without a body at a position. -/
def Program.EmptyLoopAt (program : Program) (pos : Nat) : Prop :=
  ∃ issue ∈ lint program, issue.pos = pos ∧ issue.finding = .emptyLoop

/-- The lint reports just the pairs of brackets with nothing between them. -/
theorem emptyLoopAt_iff {source : Bytes} {program : Program}
    (compiled : compile source = .ok program) (pos : Nat) :
    program.EmptyLoopAt pos ↔ utf8 "[]" <+: program.listing.drop pos := by
  constructor
  · rintro ⟨issue, reported, rfl, finding⟩
    have flagged := ((mem_lint_iff compiled issue).mp reported).2
    rwa [finding] at flagged
  · intro brackets
    -- Every bracket has a depth, so the issue can be told in full.
    have first : program.code.listing[pos]? = some Opcode.loop.symbol :=
      ((pair_prefix_drop_iff _ pos Opcode.loop.symbol loopEnd).mp brackets).1
    obtain ⟨visit, -, rfl, -, placed⟩ :=
      Code.exists_visit (code_liesAt_of_compile compiled) first
    exact ⟨⟨visit.pos, visit.depth, .emptyLoop⟩,
      (mem_lint_iff compiled _).mpr ⟨placed.depth, brackets⟩, rfl, rfl⟩

/-- A loop has no body just if its brackets stand next to each other. -/
theorem Code.body_eq_done_iff {listing : Bytes} {pos place : Nat} {body rest : Code}
    (lies : (Code.loop place body rest).LiesAt listing pos) :
    body = .done ↔ utf8 "[]" <+: listing.drop pos := by
  obtain ⟨-, first, inside, stop, -⟩ := lies
  have brackets := pair_prefix_drop_iff listing pos Opcode.loop.symbol loopEnd
  constructor
  · rintro rfl
    exact brackets.mpr ⟨first, stop⟩
  · intro empty
    have next := (brackets.mp empty).2
    -- No instruction of the body is written like a closing bracket.
    cases body with
    | done => rfl
    | op place action rest =>
      have symbol := inside.2.1
      rw [next] at symbol
      exact absurd (Option.some.inj symbol).symm (Opcode.basic action).symbol_ne_loopEnd
    | loop place body rest =>
      have symbol := inside.2.1
      rw [next] at symbol
      exact absurd (Option.some.inj symbol).symm Opcode.loop.symbol_ne_loopEnd

/-- Whether an event is the start of a loop. -/
def Event.isEntry : Event → Bool
  | exec _ .loop _ _ _ _ => true
  | _ => false

/-- Whether an event belongs to the end of a run: the last delivery to the sink, or the report of
the state that the run has ended in. -/
def Event.isClosing : Event → Bool
  | delivered _ | checkpoint .. => true
  | _ => false

namespace Machine

section

variable (machine : Machine)

/-- The machine goes round in a loop without a body. -/
structure Spins : Prop where
  ready : machine.status = .ready
  code : machine.code = .done
  around : ∃ rest outer, machine.loops = ⟨.done, rest⟩ :: outer
  nonzero : machine.tape.cell ≠ 0

/-- The newest event is the start of a loop without a body on a non-zero cell. -/
def EntersEmpty : Prop :=
  ∃ pos steps pointer cell mode,
    machine.journal.head? = some (.exec pos .loop steps pointer cell mode) ∧
      utf8 "[]" <+: machine.listing.toList.drop pos ∧ cell ≠ 0

/-- Only the innermost loop can be without a body, and only while it is tested; and the machine goes
round in it just behind its start on a non-zero cell. -/
structure Rounds : Prop where
  outer : ∀ loop ∈ machine.loops.tail, loop.body ≠ .done
  within : machine.code ≠ .done → ∀ loop ∈ machine.loops, loop.body ≠ .done
  spins : machine.Spins ↔ machine.EntersEmpty

end

section

variable {machine after : Machine}

/-- Only the start of a loop can be the start of an empty one. -/
theorem not_entersEmpty (other : machine.journal.head?.any Event.isEntry = false) :
    ¬ machine.EntersEmpty := by
  rintro ⟨pos, steps, pointer, cell, mode, newest, -⟩
  rw [newest] at other
  cases other

/-- All loops have a body. -/
theorem rounds_of_busy (busy : ∀ loop ∈ machine.loops, loop.body ≠ .done)
    (other : ¬ machine.EntersEmpty) : machine.Rounds where
  outer loop member := busy loop (List.mem_of_mem_tail member)
  within _ := busy
  spins := by
    -- A machine that goes round is in a loop without a body.
    refine ⟨fun spins => ?_, fun enters => absurd enters other⟩
    obtain ⟨rest, outer, around⟩ := spins.around
    exact absurd rfl (busy ⟨.done, rest⟩ (by simp [around]))

/-- A run that ends goes round no more. -/
theorem rounds_halt (outer : ∀ loop ∈ machine.loops.tail, loop.body ≠ .done)
    (within : machine.code ≠ .done → ∀ loop ∈ machine.loops, loop.body ≠ .done)
    (error : Option RunError) : (machine.halt error).Rounds where
  outer := outer
  within := within
  spins := by
    constructor
    · intro spins
      cases spins.ready
    · intro enters
      exact absurd enters (not_entersEmpty rfl)

/-- The next instruction is a loop that the machine goes round in, or something else happens. -/
theorem Executes.rounds (executes : machine.Executes after) {pos : Nat}
    (stands : machine.StandsAt pos) (busy : ∀ loop ∈ machine.loops, loop.body ≠ .done) :
    after.Rounds := by
  cases executes with
  | @enters place body rest code =>
    obtain ⟨lies, -⟩ := stands
    rw [code] at lies
    have empty := Code.body_eq_done_iff lies
    obtain ⟨rfl, -⟩ := lies
    constructor
    case outer => exact busy
    case within => exact fun next => absurd rfl next
    case spins =>
      constructor
      · rintro ⟨-, -, ⟨behind, outer, around⟩, nonzero⟩
        cases around
        exact ⟨place, _, _, _, _, rfl, empty.mp rfl, nonzero⟩
      · rintro ⟨here, steps, pointer, cell, mode, newest, brackets, nonzero⟩
        -- The newest event is the start of this very loop.
        cases newest
        exact ⟨rfl, rfl, ⟨rest, _, by rw [← empty.mpr brackets]; rfl⟩, nonzero⟩
  | acts => exact rounds_of_busy busy (not_entersEmpty rfl)
  | faults => exact rounds_of_busy busy (not_entersEmpty rfl)
  | writes => exact rounds_of_busy busy (not_entersEmpty rfl)
  | unwritten => exact rounds_of_busy busy (not_entersEmpty rfl)
  | takes => exact rounds_of_busy busy (not_entersEmpty rfl)
  | asks =>
    -- The wait may be told of, but not as the start of a loop.
    refine rounds_of_busy ?_ (not_entersEmpty ?_)
    · rw [(untouched_await _).loops]
      exact busy
    · unfold await
      split <;> rfl
  | unasked => exact rounds_of_busy busy (not_entersEmpty rfl)
  | @breaks place rest code =>
    have kept := untouched_setMode ((machine.begin place (.basic .breakpoint)).record
      (.breakpoint place)) .debugging
    refine rounds_of_busy ?_ (not_entersEmpty ?_)
    · rw [proceed, kept.loops]
      exact busy
    · unfold setMode
      split <;> rfl

/-- Whatever a machine does that waits for nobody, its passes have executed something. -/
theorem Advances.rounds (advances : machine.Advances after) (rounds : machine.Rounds)
    (ready : machine.status = .ready) {pos : Nat} (stands : machine.StandsAt pos) :
    after.Rounds := by
  cases advances with
  | @leaves innermost outer code loops zero =>
    -- A loop that is left has tested a zero, which no loop that is gone round in does.
    have busy := rounds.outer
    rw [loops] at busy
    refine rounds_of_busy busy fun enters => ?_
    exact (rounds.spins.mpr enters).nonzero zero
  | @repeats innermost outer code loops nonzero allowed =>
    have busy := rounds.outer
    rw [loops] at busy
    by_cases empty : innermost.body = .done
    · -- The machine goes round, and nothing else changes.
      have spins : machine.Spins :=
        ⟨ready, code, ⟨innermost.rest, outer, by rw [loops, ← empty]⟩, nonzero⟩
      exact ⟨rounds.outer, fun next => absurd empty next,
        ⟨fun _ => rounds.spins.mp spins, fun _ => ⟨ready, empty, spins.around, nonzero⟩⟩⟩
    · refine rounds_of_busy ?_ fun enters => ?_
      · show ∀ loop ∈ machine.loops, loop.body ≠ .done
        rw [loops]
        exact List.forall_mem_cons.mpr ⟨empty, busy⟩
      · obtain ⟨rest, others, around⟩ := (rounds.spins.mpr enters).around
        rw [loops] at around
        cases around
        exact empty rfl
  | cut =>
    refine rounds_halt ?_ ?_ _
    · exact rounds.outer
    · exact rounds.within
  | ends => exact rounds_halt rounds.outer rounds.within _
  | stops code debugging =>
    -- In front of an instruction the machine does not go round.
    refine rounds_of_busy (rounds.within code) fun enters => ?_
    exact code (rounds.spins.mpr enters).code
  | unprompted => exact rounds_halt rounds.outer rounds.within _
  | executes running executes =>
    have next : machine.code ≠ .done := by cases executes <;> simp [*]
    exact executes.rounds stands (rounds.within next)

/-- Whatever the console does, the passes have executed something. -/
theorem Hears.rounds {entry : Entry} (hears : machine.Hears entry after) (rounds : machine.Rounds)
    (next : machine.code ≠ .done) {pos : Nat} (stands : machine.StandsAt pos) : after.Rounds := by
  have busy := rounds.within next
  cases hears with
  -- The console stays in front of an instruction, so all loops around it have a body.
  | replies text => exact rounds_of_busy busy (not_entersEmpty rfl)
  | unprompted text => exact rounds_of_busy busy (not_entersEmpty rfl)
  | @goesOn entry heard after listened executes =>
    have kept := listened.untouched
    have standing : heard.StandsAt pos := by
      rw [StandsAt, kept.code, kept.loops, kept.listing]
      exact stands
    refine executes.rounds standing ?_
    rw [kept.loops]
    exact busy
  | failed reason => exact rounds_of_busy busy (not_entersEmpty rfl)
  | cancelled => exact rounds_of_busy busy (not_entersEmpty rfl)

/-- Whatever a waiting input instruction does, the passes have executed something. -/
theorem Takes.rounds {rest : Code} {entry : Entry} (takes : machine.Takes rest entry after)
    (rounds : machine.Rounds) (next : machine.code ≠ .done) : after.Rounds := by
  have busy := rounds.within next
  cases takes with
  | stores fed => exact rounds_of_busy busy (not_entersEmpty rfl)
  | @skips text fed =>
    refine rounds_of_busy ?_ (not_entersEmpty ?_)
    · rw [(untouched_await _).loops]
      exact busy
    · unfold await
      split <;> rfl
  | unasked fed => exact rounds_of_busy busy (not_entersEmpty rfl)
  | exhausts report => exact rounds_of_busy busy (not_entersEmpty rfl)
  | failed reason => exact rounds_of_busy busy (not_entersEmpty rfl)
  | cancelled => exact rounds_of_busy busy (not_entersEmpty rfl)

end

end Machine

namespace Session

/-- Whatever a machine for a compiled program comes to, it goes round in a loop without a body only
behind its start on a non-zero cell. -/
theorem Reaches.rounds {source : Bytes} {blueprint : Blueprint} {script : List Entry}
    (compiled : compile source = .ok blueprint.program) {session : Session}
    (reached : Reaches ⟨blueprint.machine, script⟩ session) : session.machine.bare.Rounds := by
  induction reached with
  | refl =>
    exact Machine.rounds_of_busy (fun _ none => absurd none List.not_mem_nil)
      (Machine.not_entersEmpty rfl)
  | @step session reached ih =>
    -- A move without the output is one of the deeds of the machine.
    obtain ⟨pos, stands⟩ := reached.standsAt compiled
    have deed := deed_step reached.attentive
    generalize session.step.machine.bare = after at deed ⊢
    cases deed with
    | advances ready advances => exact advances.rounds ih ready stands
    | hears stopped handed hears =>
      exact hears.rounds ih (reached.attentive.stopped stopped) stands
    | takes asking handed spent code takes => exact takes.rounds ih (by simp [Machine.bare, code])
    | rests halted => exact ih
  | @rerun session cancellation reached halted ih =>
    -- The last event of a run that is over is no start of a loop.
    refine Machine.rounds_of_busy (fun _ none => absurd none List.not_mem_nil) fun enters => ?_
    have ready := (ih.spins.mpr enters).ready
    rw [Machine.isHalted, show session.machine.status = .ready from ready] at halted
    cases halted

end Session

/-- Nothing has happened from one machine to the other, except that a cancelled run may have ended:
then the output of before has been flushed. -/
structure Machine.Idles (before after : Machine) : Prop where
  tape : after.tape = before.tape
  mode : after.mode = before.mode
  steps : after.steps = before.steps
  pending : after.pending = before.pending
  writer : after.writer = before.writer ∨ after.writer = before.writer.flush.1
  journal : ∃ since, after.journal = since ++ before.journal ∧
    ∀ event ∈ since, event.isClosing = true
  status : after.status = .ready ∨
    after.status = .halted (some .cancelled) ∧ after.cancellation.cancelled = true

namespace Machine.Spins

variable {machine : Machine}

/-- Each time round the machine only asks whether it may go on. -/
theorem step {session : Session} (spins : session.machine.Spins) :
    session.step = ⟨if session.machine.checked.cancellation.cancelled then
      session.machine.checked.finish (some .cancelled) else session.machine.checked,
      session.script⟩ := by
  obtain ⟨rest, outer, around⟩ := spins.around
  -- The body that begins is as empty as the code behind its end.
  have still : ({ session.machine.checked with code := .done } : Machine) =
      session.machine.checked := by
    rw [← spins.code]
    rfl
  have tested : session.step = ⟨session.machine.test ⟨.done, rest⟩ outer, session.script⟩ := by
    simp only [Session.step, spins.ready, Machine.advance, spins.code, around]
  rw [tested, test, if_neg spins.nonzero]
  exact congrArg (fun later => (⟨if session.machine.checked.cancellation.cancelled then
    session.machine.checked.finish (some .cancelled) else later, session.script⟩ : Session)) still

/-- However far the run goes on, it only asks whether it may, or it has been cancelled. -/
theorem iterate {session : Session} (spins : session.machine.Spins) (moves : Nat) :
    ∃ cancellation : Cancellation, let spun := { session.machine with cancellation := cancellation }
      Session.step^[moves] session = ⟨spun, session.script⟩ ∨
        cancellation.cancelled = true ∧
          Session.step^[moves] session = ⟨spun.finish (some .cancelled), session.script⟩ := by
  induction moves with
  | zero => exact ⟨session.machine.cancellation, .inl rfl⟩
  | succ moves ih =>
    obtain ⟨cancellation, ahead⟩ := ih
    rw [Function.iterate_succ_apply']
    rcases ahead with spinning | ⟨cancelled, ended⟩
    -- One more time round asks the context once more.
    · rw [spinning]
      have again : ({ session.machine with cancellation := cancellation } : Machine).Spins :=
        ⟨spins.ready, spins.code, spins.around, spins.nonzero⟩
      have move := @step ⟨_, session.script⟩ again
      rw [move]
      refine ⟨cancellation.check, ?_⟩
      cases refused : cancellation.check.cancelled with
      | false => exact .inl (by simp [checked, refused])
      | true => exact .inr ⟨rfl, by simp [checked, refused]⟩
    · rw [ended, Session.step_of_halted rfl]
      exact ⟨cancellation, .inr ⟨cancelled, rfl⟩⟩

/-- However far the run goes on, nothing happens any more. -/
theorem idles {session : Session} (spins : session.machine.Spins) (moves : Nat) :
    session.machine.Idles (Session.step^[moves] session).machine ∧
      (Session.step^[moves] session).script = session.script := by
  obtain ⟨cancellation, spinning | ⟨cancelled, ended⟩⟩ := spins.iterate moves
  · rw [spinning]
    exact ⟨⟨rfl, rfl, rfl, rfl, .inl rfl, ⟨[], rfl, nofun⟩, .inl spins.ready⟩, rfl⟩
  · rw [ended]
    refine ⟨⟨rfl, rfl, rfl, rfl, .inr rfl, ?_, .inr ⟨rfl, cancelled⟩⟩, rfl⟩
    -- The last flush may have something to deliver.
    simp only [finish, flush, deliver, record]
    cases session.machine.writer.flush.2 with
    | none => exact ⟨[_], rfl, by simp [Event.isClosing]⟩
    | some delivery => exact ⟨[_, .delivered delivery], rfl, by simp [Event.isClosing]⟩

/-- A run that nobody cancels goes round for ever. -/
theorem forever {session : Session} (spins : session.machine.Spins)
    (running : session.machine.cancellation.cancelled = false)
    (unlimited : session.machine.cancellation.checksLeft = none) (moves : Nat) :
    Session.step^[moves] session = session := by
  refine Function.iterate_fixed ?_ moves
  have same : session.machine.checked = session.machine := by
    rw [checked, Cancellation.check, unlimited]
  rw [spins.step, same, running, if_neg Bool.false_ne_true]

end Machine.Spins

namespace Machine

/-- An instruction that is left behind has been counted. -/
def Past (machine later : Machine) : Prop :=
  machine.steps < later.steps ∨
    later.code = machine.code ∧ later.steps = machine.steps ∧ later.status ≠ .asking

/-- Code is left behind only by the start of its first instruction. -/
theorem Past.shift {machine before after : Machine} (next : machine.code ≠ .done)
    (past : machine.Past before) (shift : before.Shift after) : machine.Past after := by
  have counted : before.steps ≤ after.steps := by
    cases shift <;> omega
  rcases past with started | ⟨same, unstarted, calm⟩
  -- The count of instructions never goes down.
  · exact .inl (Nat.lt_of_lt_of_le started counted)
  · cases shift with
    | rest code loops tape steps waiting =>
      exact .inr ⟨code.trans same, steps.trans unstarted, fun asking => calm (waiting asking)⟩
    | left code => exact absurd (same.symm.trans code) next
    | again code => exact absurd (same.symm.trans code) next
    | entered _ _ _ _ steps => exact .inl (by omega)
    | executed _ steps => exact .inl (by omega)
    | completed _ waited => exact absurd waited calm

end Machine

/-- A loop passes its test in one session, and in a later one it is tested again. -/
structure Session.CompletesPass (start later : Session) : Prop where
  ready : start.machine.status = .ready
  code : start.machine.code = .done
  inside : start.machine.loops ≠ []
  passed : start.machine.tape.cell ≠ 0
  again : later.machine.status = .ready
  back : later.machine.code = .done
  loops : later.machine.loops = start.machine.loops

/-- However far a run goes on from some code, the code is left behind only by its instruction. -/
theorem Session.past_iterate {session : Session} (next : session.machine.code ≠ .done)
    (calm : session.machine.status ≠ .asking) (moves : Nat) :
    session.machine.Past (Session.step^[moves] session).machine := by
  induction moves with
  | zero => exact .inr ⟨rfl, rfl, calm⟩
  | succ moves ih =>
    rw [Function.iterate_succ_apply']
    exact ih.shift next (Session.shift_step _)

/-- A pass of a loop that has a body executes an instruction. -/
theorem Session.CompletesPass.steps_lt {start : Session} {moves : Nat}
    (pass : start.CompletesPass (Session.step^[moves + 1] start))
    (busy : ∀ innermost outer, start.machine.loops = innermost :: outer → innermost.body ≠ .done) :
    start.machine.steps < (Session.step^[moves + 1] start).machine.steps := by
  have ready := pass.again
  have back := pass.back
  rw [Function.iterate_succ_apply] at ready back ⊢
  obtain ⟨innermost, outer, loops⟩ := List.exists_cons_of_ne_nil pass.inside
  -- The first move of the pass enters the body, and the body has to be left behind.
  have next : innermost.body ≠ .done := busy innermost outer loops
  have move : start.step = ⟨start.machine.test innermost outer, start.script⟩ := by
    simp only [Session.step, pass.ready, Machine.advance, pass.code, loops]
  rw [Machine.test, if_neg pass.passed] at move
  cases refused : start.machine.cancellation.check.cancelled with
  | true =>
    -- A cancelled run is over, and does not come back to the test.
    simp only [refused, if_true] at move
    rw [move, Function.iterate_fixed (Session.step_of_halted rfl)] at ready
    cases ready
  | false =>
    simp only [refused, Bool.false_eq_true, if_false] at move
    have begun : start.step.machine.code = innermost.body := by rw [move]
    have calm : start.step.machine.status ≠ .asking := by simp [move, pass.ready]
    have counted : start.step.machine.steps = start.machine.steps := by rw [move]
    rcases Session.past_iterate (by rwa [begun]) calm moves with started | ⟨same, -⟩
    · rwa [counted] at started
    · exact absurd (begun.symm.trans (same.symm.trans back)) next

namespace Machine

/-- The start of an instruction is told just if it has been written down. -/
theorem mem_execution_iff (machine : Machine) (pos : Nat) (opcode : Opcode) (steps pointer : Nat)
    (cell : UInt8) (mode : Mode) :
    .exec pos opcode steps pointer cell mode ∈ machine.told Event.execution ↔
      .exec pos opcode steps pointer cell mode ∈ machine.journal := by
  simp only [told, events, List.mem_flatMap, List.mem_reverse]
  constructor
  · rintro ⟨event, member, same⟩
    cases event <;> simp_all [Event.execution]
  · intro member
    exact ⟨_, member, by simp [Event.execution]⟩

end Machine

/-- An empty loop that is entered never ends by itself. Once a loop that the lint reports as empty
has been started on a non-zero cell, nothing happens any more, in the debugger or outside: the run
goes round for ever unless it is cancelled, and then it ends with that error. And as long as no such
loop has been started on a non-zero cell, every completed pass of a loop executes an instruction. -/
theorem entered_empty_loop_never_ends {source : Bytes} {blueprint : Blueprint}
    (compiled : compile source = .ok blueprint.program) {script : List Entry} {session : Session}
    (reached : Session.Reaches ⟨blueprint.machine, script⟩ session) :
    (∀ pos steps pointer cell mode,
      session.machine.journal.head? = some (.exec pos .loop steps pointer cell mode) →
      blueprint.program.EmptyLoopAt pos → cell ≠ 0 →
      (∀ moves, session.machine.Idles (Session.run moves session).machine ∧
        (Session.run moves session).script = session.script) ∧
      (session.machine.cancellation.cancelled = false →
        session.machine.cancellation.checksLeft = none →
        ∀ moves, (Session.run moves session).machine.isHalted = false)) ∧
    ∀ moves, 0 < moves → session.CompletesPass (Session.run moves session) →
      (∀ pos steps pointer cell mode,
        .exec pos .loop steps pointer cell mode ∈ (Session.run moves session).machine.journal →
        blueprint.program.EmptyLoopAt pos → cell = 0) →
      session.machine.steps < (Session.run moves session).machine.steps := by
  have rounds := reached.rounds compiled
  have listing : session.machine.listing.toList = blueprint.program.listing := by
    have same : session.machine.listing = blueprint.machine.listing :=
      congrArg (fun kept => kept.2.1) reached.fixed
    rw [same, Blueprint.machine]
  refine ⟨fun pos steps pointer cell mode newest empty nonzero => ?_,
    fun moves some pass calm => ?_⟩
  · have brackets := (emptyLoopAt_iff compiled pos).mp empty
    rw [← listing] at brackets
    -- The newest event is the newest one without the deliveries, too.
    have bare : session.machine.bare.journal.head? =
        some (.exec pos .loop steps pointer cell mode) := by
      obtain ⟨before, journal⟩ := List.head?_eq_some_iff.mp newest
      rw [Machine.bare, journal]
      rfl
    have spins := rounds.spins.mpr ⟨pos, steps, pointer, cell, mode, bare, brackets, nonzero⟩
    have spins : session.machine.Spins := ⟨spins.ready, spins.code, spins.around, spins.nonzero⟩
    refine ⟨fun moves => ?_, fun running unlimited moves => ?_⟩
    · rw [Session.run_eq_iterate]
      exact spins.idles moves
    · rw [Session.run_eq_iterate, spins.forever running unlimited]
      simp [Machine.isHalted, spins.ready]
  · obtain ⟨fewer, rfl⟩ := Nat.exists_eq_succ_of_ne_zero (Nat.ne_of_gt some)
    rw [Session.run_eq_iterate] at pass calm ⊢
    refine pass.steps_lt fun innermost outer loops body => ?_
    -- A loop without a body would have been started on a non-zero cell.
    have spins : session.machine.bare.Spins :=
      ⟨pass.ready, pass.code, ⟨innermost.rest, outer, by rw [← body]; exact loops⟩, pass.passed⟩
    obtain ⟨pos, steps, pointer, cell, mode, newest, brackets, nonzero⟩ := rounds.spins.mp spins
    have written := (List.mem_filter.mp (List.mem_of_head? newest)).1
    refine nonzero (calm pos steps pointer cell mode ?_ ?_)
    · rw [← Machine.mem_execution_iff] at written ⊢
      exact ((session.grows_iterate _).told_extends Event.execution).subset written
    · rw [emptyLoopAt_iff compiled, ← listing]
      exact brackets

/-- The debugger enters an empty loop on a one and never comes back, and a loop that counts a one
down executes an instruction in its pass. -/
theorem entered_empty_loop_never_ends_debugging :
    let empty : Program := ⟨.op 0 .increment (.loop 1 .done .done), 3, 1⟩
    let stuck : Blueprint := { Blueprint.ofProgram empty with tapeLength := 1, debugging := true }
    let entered := Session.step^[4] ⟨stuck.machine, [.line (utf8 "n"), .line (utf8 "next")]⟩
    let counting : Program := ⟨.op 0 .increment (.loop 1 (.op 2 .decrement .done) .done), 4, 1⟩
    let blueprint : Blueprint := { Blueprint.ofProgram counting with tapeLength := 1 }
    let tested := Session.step^[2] ⟨blueprint.machine, []⟩
    (∀ moves, entered.machine.Idles (Session.run moves entered).machine ∧
      (Session.run moves entered).machine.isHalted = false) ∧
    tested.machine.steps < (Session.run 2 tested).machine.steps := by
  intro empty stuck entered counting blueprint tested
  constructor
  · have compiled : compile (utf8 "+[]") = .ok stuck.program := rfl
    have reached :
        Session.Reaches ⟨stuck.machine, [.line (utf8 "n"), .line (utf8 "next")]⟩ entered :=
      Session.Reaches.refl.iterate 4
    have reported : stuck.program.EmptyLoopAt 1 :=
      (emptyLoopAt_iff compiled 1).mpr (by decide)
    have newest : entered.machine.journal.head? = some (.exec 1 .loop 2 0 1 .debugging) := by
      decide +kernel
    have running : entered.machine.cancellation.cancelled = false := by decide +kernel
    have unlimited : entered.machine.cancellation.checksLeft = none := by decide +kernel
    clear_value entered
    obtain ⟨idles, forever⟩ := (entered_empty_loop_never_ends compiled reached).1 1 2 0 1 .debugging
      newest reported (by decide)
    exact fun moves => ⟨(idles moves).1, forever running unlimited moves⟩
  · have compiled : compile (utf8 "+[-]") = .ok blueprint.program := rfl
    have reached : Session.Reaches ⟨blueprint.machine, []⟩ tested := Session.Reaches.refl.iterate 2
    refine (entered_empty_loop_never_ends compiled reached).2 2 (by decide) ?_ ?_
    · exact ⟨by decide +kernel, by decide +kernel, by decide +kernel, by decide +kernel,
        by decide +kernel, by decide +kernel, by decide +kernel⟩
    · -- The only loop has a body.
      intro pos steps pointer cell mode member reported
      have brackets := (emptyLoopAt_iff compiled pos).mp reported
      have journal : (Session.run 2 tested).machine.journal =
          [.exec 2 (.basic .decrement) 3 0 1 .running, .exec 1 .loop 2 0 1 .running,
            .exec 0 (.basic .increment) 1 0 0 .running] := by decide +kernel
      rw [journal] at member
      simp only [List.mem_cons, List.not_mem_nil, or_false] at member
      rcases member with same | same | same <;> cases same
      revert brackets
      decide

end TapeMachine
