import TapeMachine.Proofs.Machine.Cancellation
import TapeMachine.Proofs.Machine.Deed
import TapeMachine.Proofs.Machine.Safety

/-! A cancelled run always ends: it only leaves loops from then on, so it walks through the listing
from the left to the right and never back. -/

namespace TapeMachine

/-- The place and the opcode of an instruction that starts. -/
def Event.started : Event → List (Nat × Opcode)
  | exec pos opcode .. => [(pos, opcode)]
  | _ => []

/-- Events that are not about the machine itself start no instruction. -/
theorem Event.started_of_foreign (event : Event) (foreign : event.isOwn = false) :
    event.started = [] := by
  cases event <;> first | rfl | cases foreign

/-- The errors that an instruction can end a run with. -/
inductive RunError.OfInstruction : RunError → Nat → Opcode → Prop
  /-- An operation moves the data pointer off the tape. -/
  | pointer (pos : Nat) (opcode : Opcode) (place : Nat) (fault : PointerFault) :
      OfInstruction (.pointer pos opcode place fault) pos opcode
  /-- The output instruction cannot write. -/
  | write (pos : Nat) : OfInstruction .write pos (.basic .output)
  /-- The input instruction cannot flush the output before it asks for a line. -/
  | flush (pos : Nat) : OfInstruction .flush pos (.basic .input)
  /-- The input instruction cannot read a line. -/
  | readInput (cause : SourceError) (pos : Nat) :
      OfInstruction (.readInput cause) pos (.basic .input)

/-- A cancelled context stays so when an instruction starts. -/
theorem Cancellation.cancelled_start {cancellation : Cancellation}
    (cancelled : cancellation.cancelled = true) (steps : Nat) :
    (cancellation.start steps).cancelled = true := by
  unfold start
  split
  · rfl
  · exact cancelled

/-- A cancelled context stays so when it is looked at. -/
theorem Cancellation.cancelled_check {cancellation : Cancellation}
    (cancelled : cancellation.cancelled = true) : cancellation.check.cancelled = true := by
  unfold check
  split
  · exact cancelled
  · rfl
  · exact cancelled

/-- The number of positions behind a sequence, closing brackets of the loops around it included. -/
def sizeBehind : List ActiveLoop → Nat
  | [] => 0
  | loop :: outer => loop.rest.size + 1 + sizeBehind outer

/-- The loops around a sequence hold what lies behind it in the listing. -/
theorem length_of_encloses {listing : Bytes} (loops : List ActiveLoop) :
    ∀ {stop : Nat}, Encloses listing stop loops → stop + sizeBehind loops = listing.length := by
  induction loops with
  | nil => exact fun behind => behind
  | cons loop outer ih =>
    rintro stop ⟨start, -, -, -, -, -, around⟩
    have rest := ih around
    rw [sizeBehind]
    omega

namespace Machine

/-- The positions that lie before the machine if it begins no further pass of a loop. -/
def remaining (machine : Machine) : Nat := machine.code.size + sizeBehind machine.loops

/-- The instruction that has started and is not done yet. -/
def underWay (machine : Machine) : List (Nat × Opcode) :=
  if machine.status = .asking then machine.next?.toList else []

/-- The machine stands somewhere in its listing. -/
def Placed (machine : Machine) : Prop := ∃ pos, machine.StandsAt pos

/-- What remains lies behind the next instruction. -/
theorem Placed.next {machine : Machine} (placed : machine.Placed) {place : Nat} {opcode : Opcode}
    (next : machine.next? = some (place, opcode)) :
    place + machine.remaining = machine.listing.size := by
  obtain ⟨pos, lies, around⟩ := placed
  have whole := length_of_encloses machine.loops around
  rw [Array.length_toList] at whole
  -- The code lies at its own position, so the instruction is placed there.
  obtain rfl : place = pos := by
    cases code : machine.code with
    | done => simp [next?, code] at next
    | op there action rest =>
      simp only [next?, code, Option.some.injEq, Prod.mk.injEq] at next
      rw [code] at lies
      exact next.1.symm.trans lies.1
    | loop there body rest =>
      simp only [next?, code, Option.some.injEq, Prod.mk.injEq] at next
      rw [code] at lies
      exact next.1.symm.trans lies.1
  rw [remaining, ← whole, Nat.add_assoc]

/-- How a cancelled run can end in one move, with the instruction that starts in this move. -/
inductive Ending (before : Machine) : List (Nat × Opcode) → Option RunError → Prop
  /-- The program is at its end. -/
  | finished (code : before.code = .done) (outside : before.loops = []) : Ending before [] none
  /-- The output cannot be flushed at the end of the program. -/
  | unflushed (code : before.code = .done) (outside : before.loops = []) :
      Ending before [] (some .flush)
  /-- A loop may not begin a pass. -/
  | cut (check : before.AtCheck) : Ending before [] (some .cancelled)
  /-- The next instruction fails. -/
  | starts {place : Nat} {opcode : Opcode} {error : RunError}
      (next : before.next? = some (place, opcode)) (idle : 0 < before.status.patience)
      (own : error.OfInstruction place opcode) : Ending before [(place, opcode)] (some error)
  /-- The input instruction that has waited fails. -/
  | waited {place : Nat} {error : RunError} (asking : before.status = .asking)
      (next : before.next? = some (place, .basic .input))
      (own : error.OfInstruction place (.basic .input)) : Ending before [] (some error)
  /-- The prompt of the console cannot be flushed. -/
  | prompt (stops : before.mode = .debugging ∨ before.status = .stopped) :
      Ending before [] (some .flush)
  /-- No command can be read. -/
  | command (stopped : before.status = .stopped) (cause : SourceError) :
      Ending before [] (some (.readCommand cause))

/-- What a cancelled run can do in one move, with the instruction that starts in this move. -/
inductive Winds (before : Machine) (handed : Option Entry) (after : Machine) :
    List (Nat × Opcode) → Prop
  /-- It waits in front of an instruction. It cannot wait for ever without a line. -/
  | waits (remaining : after.remaining = before.remaining) (next : after.next? = before.next?)
      (waiting : after.status = .stopped ∧ 0 < before.status.patience ∨
        after.status = .asking ∧ before.status = .asking)
      (sooner : after.status.patience < before.status.patience ∨
        ∃ text, handed = some (.line text)) : Winds before handed after []
  /-- It leaves a loop, or an input instruction that has waited. -/
  | leaves (status : after.status = .ready) (nearer : after.remaining < before.remaining) :
      Winds before handed after []
  /-- The next instruction is executed. -/
  | starts {place : Nat} {opcode : Opcode} (next : before.next? = some (place, opcode))
      (idle : 0 < before.status.patience) (status : after.status = .ready)
      (nearer : after.remaining < before.remaining) : Winds before handed after [(place, opcode)]
  /-- The next instruction is an input instruction that has to wait. -/
  | asks {place : Nat} (next : before.next? = some (place, .basic .input))
      (idle : 0 < before.status.patience) (status : after.status = .asking)
      (same : after.next? = before.next?) (remaining : after.remaining = before.remaining) :
      Winds before handed after [(place, .basic .input)]
  /-- The run ends. -/
  | ends {started : List (Nat × Opcode)} {error : Option RunError}
      (ending : Ending before started error) (status : after.status = .halted error) :
      Winds before handed after started

/-- A cancelled machine does what it can do, and its journal tells of it. -/
def WindsOn (before : Machine) (handed : Option Entry) (after : Machine) : Prop :=
  ∃ started, before.Winds handed after started ∧
    after.told Event.started = before.told Event.started ++ started

section

variable {before heard after : Machine} {handed : Option Entry}

/-- What remains to be executed depends on code and loops alone. -/
theorem remaining_eq (code : after.code = before.code) (loops : after.loops = before.loops) :
    after.remaining = before.remaining := by
  rw [remaining, remaining, code, loops]

/-- Which instruction comes next depends on the code alone. -/
theorem next?_eq (code : after.code = before.code) : after.next? = before.next? := by
  rw [next?, next?, code]

/-- Behind an operation less remains. -/
theorem remaining_lt {pos : Nat} {action : Op} {rest : Code}
    (code : before.code = .op pos action rest) (behind : after.code = rest)
    (loops : after.loops = before.loops) : after.remaining < before.remaining := by
  rw [remaining, remaining, code, behind, loops, Code.size]
  omega

/-- What leaves the program untouched starts nothing. -/
theorem Untouched.started (untouched : Untouched before after) :
    after.told Event.started = before.told Event.started ++ [] := by
  rw [untouched.told Event.started_of_foreign, List.append_nil]

/-- The next instruction is executed by a machine that has only been to the console before. -/
theorem Executes.windsOn (executes : heard.Executes after) (kept : Untouched before heard)
    (idle : 0 < before.status.patience) : before.WindsOn handed after := by
  have begun (pos : Nat) (opcode : Opcode) : (heard.begin pos opcode).told Event.started =
      before.told Event.started ++ [(pos, opcode)] := by
    rw [told_begun, kept.told Event.started_of_foreign]
    rfl
  -- Behind its start an instruction tells of no other one.
  have quiet {machine : Machine} {pos : Nat} {opcode : Opcode}
      (untouched : Untouched (heard.begin pos opcode) machine) :
      machine.told Event.started = before.told Event.started ++ [(pos, opcode)] :=
    (untouched.told Event.started_of_foreign).trans (begun pos opcode)
  have noted (pos : Nat) (opcode : Opcode) {event : Event} (other : event.started = []) :
      ((heard.begin pos opcode).record event).told Event.started =
        before.told Event.started ++ [(pos, opcode)] := by
    rw [told_record, other, List.append_nil, begun]
  have ahead := next?_eq kept.code
  -- An instruction leaves itself behind, waits for its input, or ends the run.
  cases executes with
  | @enters pos body rest code =>
    have next : before.next? = some (pos, .loop) := by rw [← ahead, next?, code]
    refine ⟨_, .starts next idle rfl ?_, begun pos .loop⟩
    -- The body of a loop that is entered is passed over until its test begins a pass.
    rw [← remaining_eq kept.code kept.loops, remaining, remaining, code]
    simp only [entered, Code.size, sizeBehind]
    omega
  | @acts pos action rest tape code onTape act =>
    have next : before.next? = some (pos, .basic action) := by rw [← ahead, next?, code]
    exact ⟨_, .starts next idle rfl (remaining_lt (kept.code ▸ code) rfl kept.loops),
      begun pos (.basic action)⟩
  | @faults pos action rest fault code onTape act =>
    have next : before.next? = some (pos, .basic action) := by rw [← ahead, next?, code]
    exact ⟨_, .ends (.starts next idle (.pointer ..)) rfl, quiet (untouched_halt _ _)⟩
  | @writes pos rest code =>
    have next : before.next? = some (pos, .basic .output) := by rw [← ahead, next?, code]
    exact ⟨_, .starts next idle rfl (remaining_lt (kept.code ▸ code) rfl kept.loops),
      noted pos (.basic .output) rfl⟩
  | @unwritten pos rest code =>
    have next : before.next? = some (pos, .basic .output) := by rw [← ahead, next?, code]
    exact ⟨_, .ends (.starts next idle (.write pos)) rfl, quiet (untouched_halt _ _)⟩
  | @takes pos rest byte pending code held =>
    have next : before.next? = some (pos, .basic .input) := by rw [← ahead, next?, code]
    exact ⟨_, .starts next idle rfl (remaining_lt (kept.code ▸ code) rfl kept.loops),
      noted pos (.basic .input) rfl⟩
  | @asks pos rest code spent =>
    have next : before.next? = some (pos, .basic .input) := by rw [← ahead, next?, code]
    have waits := (heard.begin pos (.basic .input)).untouched_await
    exact ⟨_, .asks next idle rfl (next?_eq (waits.code.trans kept.code))
      (remaining_eq (waits.code.trans kept.code) (waits.loops.trans kept.loops)), quiet waits⟩
  | @unasked pos rest code spent =>
    have next : before.next? = some (pos, .basic .input) := by rw [← ahead, next?, code]
    exact ⟨_, .ends (.starts next idle (.flush pos)) rfl, quiet (untouched_halt _ _)⟩
  | @breaks pos rest code =>
    have next : before.next? = some (pos, .basic .breakpoint) := by rw [← ahead, next?, code]
    have switched := ((heard.begin pos (.basic .breakpoint)).record
      (.breakpoint pos)).untouched_setMode .debugging
    refine ⟨_, .starts next idle rfl (remaining_lt (kept.code ▸ code) rfl
      (switched.loops.trans kept.loops)), ?_⟩
    exact (switched.told Event.started_of_foreign).trans (noted pos (.basic .breakpoint) rfl)

section

variable {machine : Machine}

/-- A run that is cancelled begins no pass of a loop. -/
theorem Advances.windsOn (advances : machine.Advances after) (ready : machine.status = .ready)
    (cancelled : after.cancellation.cancelled = true) : machine.WindsOn none after := by
  have idle : 0 < machine.status.patience := by simp [ready, Status.patience]
  cases advances with
  | @leaves innermost outer code loops zero =>
    refine ⟨_, .leaves ready ?_, (List.append_nil _).symm⟩
    rw [remaining, remaining, code, loops]
    simp only [Code.size, sizeBehind]
    omega
  | repeats code loops nonzero allowed =>
    -- A cancelled run does not pass its check.
    have refused : machine.checked.cancellation.cancelled = true := cancelled
    simp [refused] at allowed
  | cut code around nonzero refused =>
    exact ⟨_, .ends (.cut ⟨ready, code, around, nonzero⟩) rfl,
      (machine.checked.untouched_halt _).started⟩
  | @ends error code outside last =>
    have quiet := (machine.untouched_halt error).started
    rcases last with rfl | rfl
    · exact ⟨_, .ends (.finished code outside) rfl, quiet⟩
    · exact ⟨_, .ends (.unflushed code outside) rfl, quiet⟩
  | stops code debugging =>
    exact ⟨_, .waits rfl rfl (.inl ⟨rfl, idle⟩) (.inl (by simp [ready, pause, Status.patience])),
      machine.untouched_pause.started⟩
  | unprompted code debugging =>
    exact ⟨_, .ends (.prompt (.inl debugging)) rfl, (machine.untouched_halt _).started⟩
  | executes running executes => exact executes.windsOn (.refl machine) idle

/-- A console that hears an entry brings the run nearer to its end. -/
theorem Hears.windsOn {entry : Entry} (hears : machine.Hears entry after)
    (stopped : machine.status = .stopped) : machine.WindsOn (some entry) after := by
  have idle : 0 < machine.status.patience := by simp [stopped, Status.patience]
  have noted := machine.untouched_recordEntry entry
  -- Only a line makes the console stop again, and there are not more lines than in the script.
  cases hears with
  | replies text =>
    exact ⟨_, .waits (remaining_eq noted.code noted.loops) (next?_eq noted.code)
      (.inl ⟨rfl, idle⟩) (.inr ⟨text, rfl⟩), (noted.trans (untouched_pause _)).started⟩
  | unprompted text =>
    exact ⟨_, .ends (.prompt (.inr stopped)) rfl, (noted.trans (untouched_halt _ _)).started⟩
  | goesOn heard executes => exact executes.windsOn heard.untouched idle
  | failed reason =>
    exact ⟨_, .ends (.command stopped _) rfl, (noted.trans (untouched_halt _ _)).started⟩
  | cancelled =>
    have told := (noted.trans (untouched_halt _ (some (.readCommand .cancelled)))).started
    exact ⟨_, .ends (.command stopped _) rfl, told⟩

/-- An input instruction that hears an entry brings the run nearer to its end. -/
theorem Takes.windsOn {entry : Entry} {pos : Nat} {rest : Code}
    (takes : machine.Takes rest entry after) (asking : machine.status = .asking)
    (code : machine.code = .op pos .input rest) : machine.WindsOn (some entry) after := by
  have next : machine.next? = some (pos, .basic .input) := by rw [next?, code]
  have noted := machine.untouched_recordEntry entry
  -- The instruction has started before, so nothing starts in this move.
  cases takes with
  | @stores text byte pending fed =>
    refine ⟨_, .leaves rfl (remaining_lt code rfl noted.loops), ?_⟩
    exact (told_record _ (.input byte) _).trans ((List.append_nil _).trans noted.started)
  | @skips text fed =>
    have waits := noted.trans (untouched_await _)
    exact ⟨_, .waits (remaining_eq waits.code waits.loops) (next?_eq waits.code)
      (.inr ⟨rfl, asking⟩) (.inr ⟨text, rfl⟩), waits.started⟩
  | unasked fed =>
    exact ⟨_, .ends (.waited asking next (.flush pos)) rfl,
      (noted.trans (untouched_halt _ _)).started⟩
  | exhausts report =>
    have exhausted := noted.trans (untouched_record _ (show
      (Event.inputExhausted machine.tape.pointer).isOwn = false from rfl))
    exact ⟨_, .leaves rfl (remaining_lt code rfl noted.loops), exhausted.started⟩
  | failed reason =>
    exact ⟨_, .ends (.waited asking next (.readInput _ pos)) rfl,
      (noted.trans (untouched_halt _ _)).started⟩
  | cancelled =>
    have told := (noted.trans (untouched_halt _ (some (.readInput .cancelled)))).started
    exact ⟨_, .ends (.waited asking next (.readInput _ pos)) rfl, told⟩

/-- Only its start can have cancelled an instruction. -/
theorem Executes.cancellation (executes : machine.Executes after) :
    after.cancellation = machine.cancellation.start (machine.steps + 1) := by
  cases executes with
  | asks code spent => exact (untouched_await _).cancellation
  | breaks code => exact (untouched_setMode _ _).cancellation
  | enters | acts | faults | writes | unwritten | takes | unasked => rfl

end

/-- The output decides nothing about how a run can end. -/
theorem Ending.of_bare {started : List (Nat × Opcode)} {error : Option RunError}
    (ending : before.bare.Ending started error) : before.Ending started error := by
  cases ending with
  | finished code outside => exact .finished code outside
  | unflushed code outside => exact .unflushed code outside
  | cut check => exact .cut check
  | starts next idle own => exact .starts next idle own
  | waited asking next own => exact .waited asking next own
  | prompt stops => exact .prompt stops
  | command stopped cause => exact .command (show before.status = .stopped from stopped) cause

/-- What brings a run nearer to its end does so with the output as without it. -/
theorem WindsOn.of_bare (winds : before.bare.WindsOn handed after.bare) :
    before.WindsOn handed after := by
  obtain ⟨started, winds, told⟩ := winds
  rw [told_bare _ fun _ => rfl, told_bare _ fun _ => rfl] at told
  refine ⟨started, ?_, told⟩
  cases winds with
  | waits remaining next waiting sooner => exact .waits remaining next waiting sooner
  | leaves status nearer => exact .leaves status nearer
  | starts next idle status nearer => exact .starts next idle status nearer
  | asks next idle status same remaining => exact .asks next idle status same remaining
  | ends ending status => exact .ends ending.of_bare status

end

end Machine

namespace Session

variable {session : Session}

/-- A run that has been cancelled stays cancelled. -/
theorem cancelled_step (attentive : session.machine.Attentive)
    (cancelled : session.machine.cancellation.cancelled = true) :
    session.step.machine.cancellation.cancelled = true := by
  have deed := deed_step attentive
  show session.step.machine.bare.cancellation.cancelled = true
  generalize session.step.machine.bare = after at deed ⊢
  have started {before after : Machine} (executes : before.Executes after)
      (still : before.cancellation.cancelled = true) : after.cancellation.cancelled = true := by
    rw [executes.cancellation]
    exact Cancellation.cancelled_start still _
  have checked := Cancellation.cancelled_check cancelled
  have noted (entry : Entry) :
      (session.machine.bare.recordEntry entry).cancellation.cancelled = true := by
    rw [(Machine.untouched_recordEntry _ entry).cancellation]
    exact cancelled
  cases deed with
  | advances ready advances =>
    cases advances with
    | executes running executes => exact started executes cancelled
    | repeats | cut => exact checked
    | leaves | ends | stops | unprompted => exact cancelled
  | hears stopped handed hears =>
    cases hears with
    | replies text | unprompted text | failed reason => exact noted _
    | goesOn heard executes =>
      refine started executes ?_
      rw [heard.untouched.cancellation]
      exact cancelled
    | cancelled => rfl
  | takes asking handed spent code takes =>
    cases takes with
    | stores fed | unasked fed | exhausts report | failed reason => exact noted _
    | skips fed =>
      rw [(Machine.untouched_await _).cancellation]
      exact noted _
    | cancelled => rfl
  | rests halted => exact cancelled

/-- A session that is cancelled with its next move at latest winds on in that move, unless its run
is over. -/
theorem windsOn_step (attentive : session.machine.Attentive)
    (cancelled : session.step.machine.cancellation.cancelled = true)
    (running : session.machine.isHalted = false) :
    session.machine.WindsOn session.handed? session.step.machine := by
  have deed := deed_step attentive
  refine Machine.WindsOn.of_bare ?_
  have refused : session.step.machine.bare.cancellation.cancelled = true := cancelled
  generalize session.step.machine.bare = after at deed refused ⊢
  cases deed with
  | advances ready advances =>
    rw [show session.handed? = none by simp [handed?, ready]]
    exact advances.windsOn ready refused
  | hears stopped handed hears =>
    rw [handed]
    exact hears.windsOn stopped
  | takes asking handed spent code takes =>
    rw [handed]
    exact takes.windsOn asking code
  | rests halted => simp [running] at halted

/-- More moves than this a cancelled session cannot make. -/
def movesLeft (session : Session) : Nat :=
  3 * (session.machine.remaining + session.script.length) + session.machine.status.patience

/-- Every move of a run that winds on leaves fewer moves. -/
theorem movesLeft_step
    (winds : session.machine.WindsOn session.handed? session.step.machine)
    (running : session.step.machine.isHalted = false) :
    session.step.movesLeft < session.movesLeft := by
  -- A position or a line is worth more than all the patience that a machine can have.
  have patient : session.step.machine.status.patience ≤ 2 := by
    cases session.step.machine.status <;> simp [Status.patience]
  have fewer : session.step.script.length ≤ session.script.length := by
    rw [script_step]
    split
    · simp
    · exact Nat.le_refl _
  obtain ⟨started, winds, -⟩ := winds
  unfold movesLeft
  -- Less remains, or a line has been handed out, or only the patience is less.
  cases winds with
  | waits remaining next waiting sooner =>
    rw [remaining]
    rcases sooner with sooner | ⟨text, handed⟩
    · omega
    · have taken := length_of_handed handed
      omega
  | leaves status nearer => omega
  | starts next idle status nearer => omega
  | asks next idle status same remaining =>
    have spent : session.step.machine.status.patience = 0 := by rw [status, Status.patience]
    rw [remaining, spent]
    omega
  | ends ending status => simp [Machine.isHalted, status] at running

/-- A cancelled session makes a last move. -/
theorem exists_last (attentive : session.machine.Attentive)
    (cancelled : session.step.machine.cancellation.cancelled = true)
    (running : session.machine.isHalted = false) :
    ∃ last, (step^[last] session).machine.isHalted = false ∧
      (step^[last + 1] session).machine.isHalted = true := by
  -- By induction on the moves that are left at most.
  generalize limit : session.movesLeft = left
  induction left using Nat.strongRecOn generalizing session with
  | ind left ih =>
    have winds := windsOn_step attentive cancelled running
    cases ended : session.step.machine.isHalted with
    | true => exact ⟨0, running, ended⟩
    | false =>
      -- The rest of the run has fewer moves left, and stays cancelled.
      have fewer := movesLeft_step winds ended
      have aware := attentive_step attentive
      obtain ⟨last, before, ends⟩ := ih session.step.movesLeft (by omega) aware
        (cancelled_step aware cancelled) ended rfl
      exact ⟨last + 1, before, ends⟩

/-- A session that is cancelled where it is about to begin a pass of a loop ends instead. -/
theorem status_step_of_atCheck (cancelled : session.step.machine.cancellation.cancelled = true)
    (check : session.machine.AtCheck) :
    session.step.machine.status = .halted (some .cancelled) := by
  obtain ⟨ready, code, around, nonzero⟩ := check
  obtain ⟨innermost, outer, loops⟩ := List.exists_cons_of_ne_nil around
  have tested : session.step.machine = session.machine.test innermost outer := by
    simp only [step, ready, Machine.advance, code, loops]
  -- The cell is not zero, so only the check could let the pass begin.
  rw [tested] at cancelled ⊢
  unfold Machine.test at cancelled ⊢
  rw [if_neg nonzero] at cancelled ⊢
  dsimp only at cancelled ⊢
  split
  · rfl
  · rename_i allowed
    rw [if_neg allowed] at cancelled
    exact absurd cancelled allowed

end Session

namespace Machine

/-- Why a run that has been cancelled is over, given the instructions that have been executed since
then: it has reached its end or has been cut off, the last of these instructions has failed, or
something has failed that is no instruction's own. -/
inductive Excuse (last : Machine) (executed : List (Nat × Opcode)) : Option RunError → Prop
  /-- The program has come to its end. -/
  | finished (code : last.code = .done) (outside : last.loops = []) : Excuse last executed none
  /-- A pass of a loop was about to begin. -/
  | cut (check : last.AtCheck) : Excuse last executed (some .cancelled)
  /-- The last instruction has failed. -/
  | instruction {place : Nat} {opcode : Opcode} {error : RunError}
      (latest : executed.getLast? = some (place, opcode)) (own : error.OfInstruction place opcode) :
      Excuse last executed (some error)
  /-- The program has come to its end, but its last output cannot be flushed. -/
  | unflushed (code : last.code = .done) (outside : last.loops = []) :
      Excuse last executed (some .flush)
  /-- The prompt of the console cannot be flushed. -/
  | prompt (stops : last.mode = .debugging ∨ last.status = .stopped) :
      Excuse last executed (some .flush)
  /-- The console cannot read a command. -/
  | command (stopped : last.status = .stopped) (cause : SourceError) :
      Excuse last executed (some (.readCommand cause))

/-- What is true of a machine that has been cancelled, given the instructions that it has executed
since then: each lies before the next one, and before everything that remains. -/
structure Tail (machine : Machine) (executed : List (Nat × Opcode)) : Prop where
  increasing : executed.Pairwise fun one other => one.1 < other.1
  passed : machine.isHalted = false → ∃ done, executed = done ++ machine.underWay ∧
    ∀ one ∈ done, one.1 + machine.remaining < machine.listing.size

section

variable {before after : Machine} {handed : Option Entry} {executed started : List (Nat × Opcode)}

/-- A machine that does not wait for program input has nothing half done. -/
theorem underWay_of_idle (idle : 0 < before.status.patience) : before.underWay = [] := by
  refine if_neg fun asking => ?_
  simp [asking, Status.patience] at idle

/-- A machine that waits for program input has its input instruction half done. -/
theorem underWay_of_asking (asking : before.status = .asking) {next : Nat × Opcode}
    (ahead : before.next? = some next) : before.underWay = [next] := by
  rw [underWay, if_pos asking, ahead]
  rfl

/-- An instruction that starts lies behind everything that has been executed. -/
theorem Tail.starts (tail : before.Tail executed) (placed : before.Placed)
    (idle : 0 < before.status.patience) (running : before.isHalted = false) {place : Nat}
    {opcode : Opcode} (next : before.next? = some (place, opcode)) :
    (executed ++ [(place, opcode)]).Pairwise fun one other => one.1 < other.1 := by
  obtain ⟨done, rfl, behind⟩ := tail.passed running
  have last := placed.next next
  rw [underWay_of_idle idle, List.append_nil] at *
  refine List.pairwise_append.mpr ⟨tail.increasing, List.pairwise_singleton _ _, ?_⟩
  intro one member other same
  obtain rfl := List.mem_singleton.mp same
  have passed := behind one member
  dsimp only
  omega

/-- Nothing that has been executed lies behind what remains. -/
theorem Tail.within (tail : before.Tail executed) (placed : before.Placed)
    (running : before.isHalted = false) :
    ∀ one ∈ executed, one.1 + before.remaining ≤ before.listing.size := by
  obtain ⟨done, rfl, behind⟩ := tail.passed running
  intro one member
  rcases List.mem_append.mp member with early | late
  · exact Nat.le_of_lt (behind one early)
  · -- The instruction that waits is the next one.
    unfold underWay at late
    split at late
    · exact Nat.le_of_eq (placed.next (Option.mem_toList.mp late))
    · cases late

/-- A machine that looks at the next instruction has executed what lies before it. -/
theorem tail_of_ready (ready : after.status = .ready)
    (increasing : executed.Pairwise fun one other => one.1 < other.1)
    (behind : ∀ one ∈ executed, one.1 + after.remaining < after.listing.size) :
    after.Tail executed := by
  refine ⟨increasing, fun _ => ⟨executed, ?_, behind⟩⟩
  rw [underWay_of_idle (by simp [ready, Status.patience]), List.append_nil]

/-- A move that winds on executes what lies further behind in the listing. -/
theorem Winds.tail (winds : before.Winds handed after started) (tail : before.Tail executed)
    (placed : before.Placed) (running : before.isHalted = false)
    (listing : after.listing = before.listing) : after.Tail (executed ++ started) := by
  have within := tail.within placed running
  cases winds with
  | waits remaining next waiting sooner =>
    rw [List.append_nil]
    refine ⟨tail.increasing, fun _ => ?_⟩
    obtain ⟨done, rfl, behind⟩ := tail.passed running
    rw [remaining, listing]
    refine ⟨done, congrArg (done ++ ·) ?_, behind⟩
    -- What is under way stays under way.
    rcases waiting with ⟨stopped, idle⟩ | ⟨still, asking⟩
    · rw [underWay_of_idle idle, underWay_of_idle (by simp [stopped, Status.patience])]
    · rw [underWay, underWay, if_pos asking, if_pos still, next]
  | leaves status nearer =>
    -- What was under way is done, and lies before what remains now.
    rw [List.append_nil]
    refine tail_of_ready status tail.increasing fun one member => ?_
    have least := within one member
    rw [listing]
    omega
  | @starts place opcode next idle status nearer =>
    refine tail_of_ready status (tail.starts placed idle running next) fun one member => ?_
    -- The new instruction lies just at the beginning of what remained.
    have least : one.1 + before.remaining ≤ before.listing.size := by
      rcases List.mem_append.mp member with early | late
      · exact within one early
      · obtain rfl := List.mem_singleton.mp late
        exact Nat.le_of_eq (placed.next next)
    rw [listing]
    omega
  | asks next idle status same remaining =>
    refine ⟨tail.starts placed idle running next, fun _ => ?_⟩
    obtain ⟨done, rfl, behind⟩ := tail.passed running
    rw [underWay_of_idle idle, underWay_of_asking status (same.trans next), List.append_nil,
      remaining, listing]
    exact ⟨done, rfl, behind⟩
  | ends ending status =>
    refine ⟨?_, fun still => by simp [isHalted, status] at still⟩
    cases ending with
    | starts next idle own => exact tail.starts placed idle running next
    | finished | unflushed | cut | waited | prompt | command =>
      rw [List.append_nil]
      exact tail.increasing

/-- A cancelled run that ends has an excuse. -/
theorem Ending.excuse {error : Option RunError} (ending : before.Ending started error)
    (tail : before.Tail executed) (running : before.isHalted = false) :
    before.Excuse (executed ++ started) error := by
  cases ending with
  | finished code outside => exact .finished code outside
  | unflushed code outside => exact .unflushed code outside
  | cut check => exact .cut check
  | starts next idle own => exact .instruction List.getLast?_concat own
  | waited asking next own =>
    -- The instruction that waits is the last one that has started.
    obtain ⟨done, rfl, -⟩ := tail.passed running
    rw [underWay_of_asking asking next, List.append_nil]
    exact .instruction List.getLast?_concat own
  | prompt stops => exact .prompt stops
  | command stopped cause => exact .command stopped cause

end

end Machine

namespace Session

/-- The instructions that have been executed between two sessions, behind the one that was under way
in the first one. -/
def Executed (session later : Session) (executed : List (Nat × Opcode)) : Prop :=
  ∃ tail, later.machine.told Event.started = session.machine.told Event.started ++ tail ∧
    executed = session.machine.underWay ++ tail

/-- A session that is cancelled with its next move at latest, with the instructions that it has
executed since then. -/
structure Winding (session : Session) (executed : List (Nat × Opcode)) : Prop where
  attentive : session.machine.Attentive
  cancelled : session.step.machine.cancellation.cancelled = true
  placed : session.machine.Placed
  tail : session.machine.Tail executed

section

variable {start session : Session} {executed started : List (Nat × Opcode)}

/-- The journals of both sessions tell what has been executed between them. -/
theorem Executed.eq {later : Session} {tail : List (Nat × Opcode)}
    (since : session.Executed later executed)
    (told : later.machine.told Event.started = session.machine.told Event.started ++ tail) :
    executed = session.machine.underWay ++ tail := by
  obtain ⟨other, same, rfl⟩ := since
  rw [told] at same
  rw [List.append_cancel_left same]

/-- The instructions of one more move follow those before it. -/
theorem Executed.trans (early : start.Executed session executed)
    (told : session.step.machine.told Event.started =
      session.machine.told Event.started ++ started) :
    start.Executed session.step (executed ++ started) := by
  obtain ⟨tail, grown, rfl⟩ := early
  exact ⟨tail ++ started, by rw [told, grown, List.append_assoc], List.append_assoc _ _ _⟩

/-- A session that has been cancelled has one instruction behind it at most. -/
theorem winding_start (attentive : session.machine.Attentive)
    (cancelled : session.step.machine.cancellation.cancelled = true)
    (placed : session.machine.Placed) : session.Winding session.machine.underWay := by
  refine ⟨attentive, cancelled, placed, ?_, fun _ => ⟨[], rfl, nofun⟩⟩
  -- There is one next instruction at most.
  unfold Machine.underWay
  split
  · cases session.machine.next? <;> simp
  · exact .nil

/-- A move of a cancelled session that is not over. -/
theorem Winding.step (winding : session.Winding executed)
    (running : session.machine.isHalted = false) :
    ∃ started, session.machine.Winds session.handed? session.step.machine started ∧
      session.step.machine.told Event.started =
        session.machine.told Event.started ++ started ∧
      session.step.Winding (executed ++ started) := by
  have listing : session.step.machine.listing = session.machine.listing :=
    congrArg (fun kept => kept.2.1) session.fixed_step
  have aware := attentive_step winding.attentive
  obtain ⟨started, winds, told⟩ := windsOn_step winding.attentive winding.cancelled running
  obtain ⟨pos, stands⟩ := winding.placed
  exact ⟨started, winds, told, aware, cancelled_step aware winding.cancelled,
    session.shift_step.standsAt listing stands, winds.tail winding.tail winding.placed running
      listing⟩

/-- However many moves a cancelled session makes. -/
theorem Winding.iterate (winding : start.Winding start.machine.underWay) (moves : Nat) :
    ∃ executed, start.Executed (Session.step^[moves] start) executed ∧
      (Session.step^[moves] start).Winding executed := by
  -- Each move adds what it starts; a run that is over adds nothing.
  induction moves with
  | zero => exact ⟨_, ⟨[], (List.append_nil _).symm, (List.append_nil _).symm⟩, winding⟩
  | succ moves ih =>
    rw [Function.iterate_succ_apply']
    obtain ⟨executed, since, ih⟩ := ih
    cases halted : (Session.step^[moves] start).machine.isHalted with
    | true =>
      rw [step_of_halted halted]
      exact ⟨executed, since, ih⟩
    | false =>
      obtain ⟨started, -, told, on⟩ := ih.step halted
      exact ⟨_, since.trans told, on⟩

/-- A cancelled session ends, and has an excuse for it. -/
theorem Winding.ends (winding : start.Winding start.machine.underWay)
    (running : start.machine.isHalted = false) :
    ∃ last error executed, (Session.step^[last] start).machine.isHalted = false ∧
      (Session.step^[last + 1] start).machine.status = .halted error ∧
      start.Executed (Session.step^[last + 1] start) executed ∧
      (Session.step^[last] start).machine.Excuse executed error := by
  obtain ⟨last, before, ended⟩ := exists_last winding.attentive winding.cancelled running
  obtain ⟨executed, since, on⟩ := winding.iterate last
  obtain ⟨started, winds, told, -⟩ := on.step before
  have moved : Session.step^[last + 1] start = (Session.step^[last] start).step :=
    Function.iterate_succ_apply' _ _ _
  rw [moved] at ended
  -- No other move ends a run.
  cases winds with
  | ends ending status =>
    refine ⟨last, _, _, before, ?_, ?_, ending.excuse on.tail before⟩
    · rw [moved]
      exact status
    · rw [moved]
      exact since.trans told
  | waits remaining next waiting sooner =>
    rcases waiting with ⟨status, -⟩ | ⟨status, -⟩ <;> simp [Machine.isHalted, status] at ended
  | leaves status nearer => simp [Machine.isHalted, status] at ended
  | starts next idle status nearer => simp [Machine.isHalted, status] at ended
  | asks next idle status same remaining => simp [Machine.isHalted, status] at ended

end

end Session

/-- A run always ends once it is cancelled, be it between two moves or with the next one. No loop
begins a pass any more, the instructions that are executed from then on lie one behind the other in
the listing, and the run returns nothing at the end of the program, the cancellation in front of a
pass, the error of the last one of these instructions, or that of the last flush or of the
console. -/
theorem cancelled_run_ends {source : Bytes} {blueprint : Blueprint}
    (compiled : compile source = .ok blueprint.program) {script : List Entry} {session : Session}
    (reached : Session.Reaches ⟨blueprint.machine, script⟩ session)
    (running : session.machine.isHalted = false) {cancellation : Cancellation}
    (cancelled : (session.under cancellation).step.machine.cancellation.cancelled = true) :
    let run moves := Session.run moves (session.under cancellation)
    (∀ moves, (run moves).machine.AtCheck →
      (run (moves + 1)).machine.status = .halted (some .cancelled)) ∧
    (∀ moves, ∃ executed, session.Executed (run moves) executed ∧
      executed.Pairwise fun one other => one.1 < other.1) ∧
    ∃ last error executed, (run last).machine.isHalted = false ∧
      (run (last + 1)).machine.status = .halted error ∧
      session.Executed (run (last + 1)) executed ∧
      (run last).machine.Excuse executed error := by
  intro run
  have waits := reached.attentive
  have winding : (session.under cancellation).Winding session.machine.underWay :=
    Session.winding_start ⟨waits.stopped, waits.asking⟩ cancelled (reached.standsAt compiled)
  simp only [run, Session.run_eq_iterate]
  refine ⟨fun moves check => ?_, fun moves => ?_, winding.ends running⟩
  · obtain ⟨executed, -, on⟩ := winding.iterate moves
    rw [Function.iterate_succ_apply']
    exact Session.status_step_of_atCheck on.cancelled check
  · obtain ⟨executed, since, on⟩ := winding.iterate moves
    exact ⟨executed, since, on.tail.increasing⟩

/-- A program that would echo its input for ever still takes and puts out the line that it is
waiting for when it is cancelled. -/
theorem cancelled_run_ends_waiting :
    let program : Program :=
      ⟨.op 0 .increment (.loop 1 (.op 2 .input (.op 3 .output .done)) .done), 5, 1⟩
    let blueprint : Blueprint := { Blueprint.ofProgram program with tapeLength := 1 }
    let start : Session := ⟨blueprint.machine, [.line (utf8 "a"), .line (utf8 "b")]⟩
    let session := start.step.step.step.step
    let cancellation : Cancellation := { Cancellation.never with cancelled := true }
    let last := Session.run 3 (session.under cancellation)
    session.machine.status = .asking ∧ last.machine.status = .halted (some .cancelled) ∧
      session.Executed last [(2, .basic .input), (3, .basic .output)] ∧
      ∃ executed, session.Executed last executed ∧
        executed.Pairwise fun one other => one.1 < other.1 := by
  intro program blueprint start session cancellation last
  have compiled : compile (utf8 "+[,.]") = .ok blueprint.program := rfl
  have reached : start.Reaches session := .step (.step (.step (.step .refl)))
  have running : session.machine.isHalted = false := by decide +kernel
  have cancelled : (session.under cancellation).step.machine.cancellation.cancelled = true := by
    decide +kernel
  obtain ⟨-, increasing, -⟩ := cancelled_run_ends compiled reached running cancelled
  have told : last.machine.told Event.started =
      session.machine.told Event.started ++ [(3, .basic .output)] := by decide +kernel
  have waiting : session.machine.underWay = [(2, .basic .input)] := by decide +kernel
  refine ⟨by decide +kernel, by decide +kernel, ⟨_, told, ?_⟩, increasing 3⟩
  rw [waiting]
  rfl

/-- A session has ended with an error that is not the cancellation and no instruction's own that
has been executed since another session. -/
def Session.FailsOutside (session last : Session) : Prop :=
  ∃ error, last.machine.status = .halted (some error) ∧ error ≠ .cancelled ∧
    ∀ executed, session.Executed last executed →
      ∀ one ∈ executed, ¬ error.OfInstruction one.1 one.2

/-- A cancelled run can fail with an error that is no later instruction's own: the last flush brings
out what has been put out before the cancellation, too, and the console may get no command. -/
theorem cancelled_run_fails_outside :
    let cancellation : Cancellation := { Cancellation.never with cancelled := true }
    let printing : Blueprint :=
      { Blueprint.ofProgram ⟨.op 0 .output (.op 1 .increment .done), 2, 0⟩ with
        tapeLength := 1, room := some 0 }
    let printed := Session.step ⟨printing.machine, []⟩
    let debugging : Blueprint :=
      { Blueprint.ofProgram ⟨.op 0 .increment .done, 1, 0⟩ with
        tapeLength := 1, debugging := true }
    let start : Session := ⟨debugging.machine, [.failed (utf8 "x")]⟩
    (compile (utf8 ".+") = .ok printing.program ∧ printed.machine.isHalted = false ∧
      printed.FailsOutside (Session.run 2 (printed.under cancellation))) ∧
    compile (utf8 "+") = .ok debugging.program ∧ start.machine.isHalted = false ∧
      start.FailsOutside (Session.run 2 (start.under cancellation)) := by
  intro cancellation printing printed debugging start
  have flushes : printed.FailsOutside (Session.run 2 (printed.under cancellation)) := by
    refine ⟨.flush, by decide +kernel, nofun, fun executed since one member own => ?_⟩
    have told : (Session.run 2 (printed.under cancellation)).machine.told Event.started =
        printed.machine.told Event.started ++ [(1, .basic .increment)] := by decide +kernel
    have idle : printed.machine.underWay = [] := by decide +kernel
    -- Only the increment comes behind the cancellation, and it cannot fail to flush.
    rw [since.eq told, idle] at member
    obtain rfl := List.mem_singleton.mp member
    cases own
  have reads : start.FailsOutside (Session.run 2 (start.under cancellation)) := by
    refine ⟨.readCommand (.failed (utf8 "x")), by decide +kernel, nofun,
      fun executed since one member _ => ?_⟩
    have told : (Session.run 2 (start.under cancellation)).machine.told Event.started =
        start.machine.told Event.started ++ [] := by decide +kernel
    have idle : start.machine.underWay = [] := by decide +kernel
    -- The console comes first, so nothing has been executed.
    rw [since.eq told, idle] at member
    cases member
  exact ⟨⟨rfl, by decide +kernel, flushes⟩, rfl, by decide +kernel, reads⟩

end TapeMachine
