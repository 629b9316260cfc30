import TapeMachine.Proofs.Machine.Cancellation
import TapeMachine.Proofs.Machine.Deed
import TapeMachine.Proofs.Machine.Safety
import TapeMachine.Stats
import Mathlib.Data.List.Induction

/-! The statistics agree with the run: every instruction that started is counted, and what has not
been put out or taken in for it has failed or met the end of the input. -/

namespace TapeMachine

namespace Event

/-- The opcode of an instruction that starts. -/
def opcodes : Event → List Opcode
  | exec _ opcode .. => [opcode]
  | _ => []

/-- The mode that the machine switches to. -/
def switches : Event → List Mode
  | modeChange mode => [mode]
  | _ => []

end Event

/-- The place of an opcode among all opcodes tells which one it is. -/
theorem Opcode.code_inj {opcode other : Opcode} (same : opcode.code = other.code) :
    opcode = other := by
  cases opcode with
  | loop =>
    cases other with
    | loop => rfl
    | basic second => cases second <;> cases same
  | basic action =>
    cases other with
    | loop => cases action <;> cases same
    | basic second => cases action <;> cases second <;> first | rfl | cases same

/-- There are eight opcodes. -/
theorem Opcode.code_lt (opcode : Opcode) : opcode.code < 8 := by
  cases opcode with
  | loop => decide
  | basic action => cases action <;> decide

/-- One more in one of several counters is one more in their sum. -/
theorem foldl_set_succ (counters : List UInt64) :
    ∀ total index, (inside : index < counters.length) →
      (counters.set index (counters[index] + 1)).foldl (· + ·) total =
        counters.foldl (· + ·) total + 1 := by
  induction counters with
  | nil => exact fun _ _ inside => nomatch inside
  | cons counter rest ih =>
    intro total index inside
    cases index with
    | zero =>
      -- The one can be added in front of everything else.
      have moved : total + (counter + 1) = 1 + (total + counter) := by ac_rfl
      simp only [List.set_cons_zero, List.getElem_cons_zero, List.foldl_cons]
      rw [moved, List.foldl_assoc, UInt64.add_comm]
    | succ index =>
      simp only [List.set_cons_succ, List.getElem_cons_succ, List.foldl_cons]
      exact ih _ index (Nat.lt_of_succ_lt_succ inside)

namespace Stats

/-- The statistics are those of a list of opcodes and of four numbers, in words that start again
behind their end. -/
structure Tallies (stats : Stats) (opcodes : List Opcode) (breaks switches inputs outputs : Nat) :
    Prop where
  size : stats.executed.size = 8
  count : ∀ opcode, stats.count opcode = .ofNat (opcodes.count opcode)
  total : stats.total = .ofNat opcodes.length
  breakpoints : stats.breakpoints = .ofNat breaks
  modeChanges : stats.modeChanges = .ofNat switches
  bytesIn : stats.bytesIn = .ofNat inputs
  bytesOut : stats.bytesOut = .ofNat outputs

section

variable {stats : Stats} (size : stats.executed.size = 8) (opcode : Opcode)
include size

/-- Only the count of the opcode itself changes. -/
theorem count_setCount (other : Opcode) (value : UInt64) :
    (stats.setCount opcode value).count other =
      if opcode = other then value else stats.count other := by
  have inside := other.code_lt
  rw [← size] at inside
  simp only [count, setCount, Array.getD_eq_getD_getElem?, Array.getElem?_setIfInBounds]
  by_cases same : opcode = other
  · simp [same, inside]
  · have apart : opcode.code ≠ other.code := fun equal => same (Opcode.code_inj equal)
    simp [same, apart]

/-- Counting one more instruction makes the total one more. -/
theorem total_setCount : (stats.setCount opcode (stats.count opcode + 1)).total =
    stats.total + 1 := by
  have inside : opcode.code < stats.executed.toList.length := by
    rw [Array.length_toList, size]
    exact opcode.code_lt
  have here : stats.count opcode = stats.executed.toList[opcode.code] := by
    rw [count, Array.getD_eq_getD_getElem?, ← Array.getElem?_toList,
      List.getElem?_eq_getElem inside]
    rfl
  -- The total is the sum of the counters, and one of them has grown.
  rw [total, total, ← Array.foldl_toList, ← Array.foldl_toList, here, setCount,
    Array.toList_setIfInBounds]
  exact foldl_set_succ _ _ _ inside

end

/-- Each of the counted events adds one to its own counter. -/
theorem Tallies.observe {stats : Stats} {opcodes : List Opcode}
    {breaks switches inputs outputs : Nat}
    (tallies : Tallies stats opcodes breaks switches inputs outputs) (event : Event) :
    Tallies (stats.observe event) (opcodes ++ event.opcodes) (breaks + event.breaks.length)
      (switches + event.switches.length) (inputs + event.inputs.length)
      (outputs + event.outputs.length) := by
  have one {counter : UInt64} {number : Nat} (same : counter = .ofNat number) :
      counter + 1 = .ofNat (number + 1) := by
    rw [same, UInt64.ofNat_add]
    rfl
  cases event <;>
    simp only [Event.opcodes, Event.breaks, Event.switches, Event.inputs, Event.outputs,
      List.append_nil, List.length_nil, List.length_singleton, Nat.add_zero]
  case exec pos opcode steps pointer cell mode =>
    -- Only the start of an instruction is counted under its opcode.
    refine { tallies with size := ?_, count := fun other => ?_, total := ?_ }
    · rw [Stats.observe, setCount, Array.size_setIfInBounds, tallies.size]
    · rw [Stats.observe, count_setCount tallies.size, List.count_append]
      by_cases same : opcode = other
      · rw [if_pos same, same, List.count_singleton_self]
        exact one (tallies.count other)
      · rw [if_neg same, List.count_singleton, if_neg (by simpa using same)]
        exact tallies.count other
    · rw [Stats.observe, total_setCount tallies.size, List.length_append]
      exact one tallies.total
  case breakpoint => exact { tallies with breakpoints := one tallies.breakpoints }
  case modeChange => exact { tallies with modeChanges := one tallies.modeChanges }
  case output => exact { tallies with bytesOut := one tallies.bytesOut }
  case input => exact { tallies with bytesIn := one tallies.bytesIn }
  all_goals exact tallies

/-- The statistics of a list of events count what its events tell. -/
theorem tallies_ofEvents (events : List Event) :
    Tallies (ofEvents events) (events.flatMap Event.opcodes) (events.flatMap Event.breaks).length
      (events.flatMap Event.switches).length (events.flatMap Event.inputs).length
      (events.flatMap Event.outputs).length := by
  induction events using List.reverseRecOn with
  | nil =>
    refine ⟨rfl, fun opcode => ?_, rfl, rfl, rfl, rfl, rfl⟩
    cases opcode with
    | loop => rfl
    | basic action => cases action <;> rfl
  | append_singleton events event ih =>
    simp only [ofEvents, List.foldl_append, List.flatMap_append, List.length_append,
      List.flatMap_singleton]
    exact ih.observe event

end Stats

/-- Whether an entry is the end of the input. -/
def Entry.isEnd : Entry → Bool
  | ended _ => true
  | _ => false

/-- Whether an input instruction can fail with an error. -/
def RunError.failsInput : RunError → Bool
  | readInput _ | flush => true
  | _ => false

namespace Machine

/-- Whether the next instruction is an input instruction. -/
def atInput (machine : Machine) : Bool :=
  machine.next?.any fun (_, opcode) => opcode = .basic .input

/-- Whether an input instruction gets nothing in a move: the one that waits meets the end of the
input or fails, or one starts and fails at once. -/
def misses (before after : Machine) (handed : Option Entry) : Bool :=
  if before.status = .asking then handed.any Entry.isEnd || after.error?.any RunError.failsInput
  else after.error?.any RunError.failsInput && before.atInput && after.steps = before.steps + 1

/-- How a run ended, if it has. -/
def outcome? (machine : Machine) : Option (Option RunError) :=
  match machine.status with
  | .halted error => some error
  | _ => none

/-- The input instruction that waits for a line. -/
def begun (machine : Machine) : List Opcode :=
  if machine.status = .asking then [.basic .input] else []

/-- What the journal tells adds up. An instruction that has begun still has to bring its byte or its
breakpoint, unless its output was not written, or its input was missed. -/
structure Balance (start : Mode) (machine : Machine) (begun : List Opcode)
    (unwritten missed : Nat) : Prop where
  steps : (machine.told Event.opcodes).length = machine.steps
  breaks : (machine.told Event.opcodes).count (.basic .breakpoint) =
    (machine.told Event.breaks).length + begun.count (.basic .breakpoint)
  outputs : (machine.told Event.opcodes).count (.basic .output) =
    (machine.told Event.outputs).length + unwritten + begun.count (.basic .output)
  inputs : (machine.told Event.opcodes).count (.basic .input) =
    (machine.told Event.inputs).length + missed + begun.count (.basic .input)
  mode : machine.mode = start ↔ (machine.told Event.switches).length % 2 = 0

namespace Balance

variable {start : Mode} {machine after : Machine} {begun : List Opcode} {unwritten missed : Nat}

/-- Nothing is counted but what is told, the steps and the mode. -/
theorem of_told (balance : Balance start machine begun unwritten missed)
    (opcodes : after.told Event.opcodes = machine.told Event.opcodes)
    (breaks : after.told Event.breaks = machine.told Event.breaks)
    (outputs : after.told Event.outputs = machine.told Event.outputs)
    (inputs : after.told Event.inputs = machine.told Event.inputs)
    (switches : after.told Event.switches = machine.told Event.switches)
    (steps : after.steps = machine.steps) (mode : after.mode = machine.mode) :
    Balance start after begun unwritten missed where
  steps := by rw [opcodes, steps, balance.steps]
  breaks := by rw [opcodes, breaks, balance.breaks]
  outputs := by rw [opcodes, outputs, balance.outputs]
  inputs := by rw [opcodes, inputs, balance.inputs]
  mode := by rw [mode, switches, balance.mode]

/-- The books are kept by what changes neither journal, steps nor mode. -/
theorem other (balance : Balance start machine begun unwritten missed)
    (journal : after.journal = machine.journal) (steps : after.steps = machine.steps)
    (mode : after.mode = machine.mode) : Balance start after begun unwritten missed := by
  have same {α : Type} (view : Event → List α) : after.told view = machine.told view := by
    simp only [told, events, journal]
  exact balance.of_told (same _) (same _) (same _) (same _) (same _) steps mode

/-- Events that nobody counts may be written down. -/
theorem record (balance : Balance start machine begun unwritten missed) {event : Event}
    (uncounted : event.watched = []) : Balance start (machine.record event) begun unwritten
      missed := by
  obtain ⟨total, breaks, outputs, inputs, switches⟩ := balance
  have silent : event.opcodes = [] ∧ event.breaks = [] ∧ event.outputs = [] ∧
      event.inputs = [] ∧ event.switches = [] := by
    cases event <;> first | exact ⟨rfl, rfl, rfl, rfl, rfl⟩ | cases uncounted
  -- So no list grows, and neither do the steps nor the mode change.
  obtain ⟨opcodes, breaking, putting, taking, switching⟩ := silent
  constructor <;> simpa only [told_record, opcodes, breaking, putting, taking, switching,
    List.append_nil]

/-- An instruction starts. -/
theorem begin (balance : Balance start machine [] unwritten missed) (pos : Nat) (opcode : Opcode) :
    Balance start (machine.begin pos opcode) [opcode] unwritten missed := by
  obtain ⟨total, breaks, outputs, inputs, switches⟩ := balance
  constructor <;> simp only [told_begun, Event.opcodes, Event.breaks, Event.outputs, Event.inputs,
    Event.switches, List.append_nil, List.length_append, List.count_append] <;>
    first
    | exact congrArg (· + 1) total
    | exact congrArg (· + List.count _ [opcode]) breaks
    | exact congrArg (· + List.count _ [opcode]) outputs
    | exact congrArg (· + List.count _ [opcode]) inputs
    | exact switches

/-- A change of the mode is counted if there is one. -/
theorem setMode (balance : Balance start machine begun unwritten missed) (mode : Mode) :
    Balance start (machine.setMode mode) begun unwritten missed := by
  obtain ⟨total, breaks, outputs, inputs, switches⟩ := balance
  unfold Machine.setMode
  split
  · exact ⟨total, breaks, outputs, inputs, switches⟩
  · rename_i changed
    have same {α : Type} (view : Event → List α) :
        (({ machine with mode := mode } : Machine).record (.modeChange mode)).told view =
          machine.told view ++ view (.modeChange mode) := machine.told_record _ view
    -- There are two modes, so the other one is the first one again after an even number of changes.
    have turned : mode = start ↔ ¬ machine.mode = start := by
      cases start <;> cases mode <;> cases current : machine.mode <;> simp_all
    constructor <;> simp only [same, Event.opcodes, Event.breaks, Event.outputs, Event.inputs,
      Event.switches, List.append_nil, List.length_append, List.length_singleton]
    · exact total
    · exact breaks
    · exact outputs
    · exact inputs
    · show mode = start ↔ _
      rw [turned, switches]
      omega

/-- An instruction is done that brings neither a byte nor a breakpoint. -/
theorem settle {opcode : Opcode} (balance : Balance start machine [opcode] unwritten missed)
    (breaks : opcode ≠ .basic .breakpoint) (outputs : opcode ≠ .basic .output)
    (inputs : opcode ≠ .basic .input) : Balance start machine [] unwritten missed :=
  ⟨balance.steps, by simpa [breaks] using balance.breaks, by simpa [outputs] using balance.outputs,
    by simpa [inputs] using balance.inputs, balance.mode⟩

/-- A breakpoint that has begun is settled by being told of. -/
theorem recordBreakpoint (balance : Balance start machine [.basic .breakpoint] unwritten missed)
    (pos : Nat) : Balance start (machine.record (.breakpoint pos)) [] unwritten missed := by
  obtain ⟨total, breaks, outputs, inputs, switches⟩ := balance
  constructor <;> simpa [Event.opcodes, Event.breaks, Event.outputs, Event.inputs, Event.switches]

/-- An output that has begun is settled by being told of. -/
theorem recordOutput (balance : Balance start machine [.basic .output] unwritten missed)
    (byte : UInt8) : Balance start (machine.record (.output byte)) [] unwritten missed := by
  obtain ⟨total, breaks, outputs, inputs, switches⟩ := balance
  constructor <;> simpa [Event.opcodes, Event.breaks, Event.outputs, Event.inputs, Event.switches,
    Nat.add_right_comm _ 1]

/-- An input that has begun is settled by being told of. -/
theorem recordInput (balance : Balance start machine [.basic .input] unwritten missed)
    (byte : UInt8) : Balance start (machine.record (.input byte)) [] unwritten missed := by
  obtain ⟨total, breaks, outputs, inputs, switches⟩ := balance
  constructor <;> simpa [Event.opcodes, Event.breaks, Event.outputs, Event.inputs, Event.switches,
    Nat.add_right_comm _ 1]

/-- An output instruction fails. -/
theorem fail (balance : Balance start machine [.basic .output] unwritten missed) :
    Balance start machine [] (unwritten + 1) missed := by
  obtain ⟨total, breaks, outputs, inputs, switches⟩ := balance
  exact ⟨total, breaks, outputs, inputs, switches⟩

/-- An input instruction gets nothing. -/
theorem miss (balance : Balance start machine [.basic .input] unwritten missed) :
    Balance start machine [] unwritten (missed + 1) := by
  obtain ⟨total, breaks, outputs, inputs, switches⟩ := balance
  exact ⟨total, breaks, outputs, inputs, switches⟩

/-- The end of a run settles nothing. -/
theorem halt (balance : Balance start machine begun unwritten missed) (error : Option RunError) :
    Balance start (machine.halt error) begun unwritten missed := by
  have ended : Balance start { machine with status := .halted error } begun unwritten missed :=
    balance.other rfl rfl rfl
  exact ended.record rfl

/-- A question for input settles nothing. -/
theorem await (balance : Balance start machine begun unwritten missed) :
    Balance start machine.await begun unwritten missed := by
  have asked : Balance start (if machine.prompting then machine.record .prompted else machine)
      begun unwritten missed := by
    split
    · exact balance.record rfl
    · exact balance
  exact asked.other rfl rfl rfl

/-- What the line source answers settles nothing by itself. -/
theorem recordEntry (balance : Balance start machine begun unwritten missed) (entry : Entry) :
    Balance start (machine.recordEntry entry) begun unwritten missed := by
  cases entry <;> exact balance.record rfl

/-- A byte that is stored settles the input. -/
theorem store (balance : Balance start machine [.basic .input] unwritten missed) (byte : UInt8)
    (rest : Code) : Balance start (machine.store byte rest) [] unwritten missed := by
  have written : Balance start { machine with tape := machine.tape.write byte } [.basic .input]
      unwritten missed := balance.other rfl rfl rfl
  exact (written.recordInput byte).other rfl rfl rfl

/-- Deliveries to the sink are not counted. -/
theorem bare_iff : Balance start machine.bare begun unwritten missed ↔
    Balance start machine begun unwritten missed := by
  have opcodes : machine.bare.told Event.opcodes = machine.told Event.opcodes :=
    machine.told_bare fun _ => rfl
  have breaks : machine.bare.told Event.breaks = machine.told Event.breaks :=
    machine.told_bare fun _ => rfl
  have outputs : machine.bare.told Event.outputs = machine.told Event.outputs :=
    machine.told_bare fun _ => rfl
  have inputs : machine.bare.told Event.inputs = machine.told Event.inputs :=
    machine.told_bare fun _ => rfl
  have switches : machine.bare.told Event.switches = machine.told Event.switches :=
    machine.told_bare fun _ => rfl
  constructor
  · intro balance
    exact balance.of_told opcodes.symm breaks.symm outputs.symm inputs.symm switches.symm rfl rfl
  · intro balance
    exact balance.of_told opcodes breaks outputs inputs switches rfl rfl

end Balance

section

variable {start : Mode} {machine after : Machine} {unwritten missed : Nat}

/-- Every instruction is one step. -/
theorem Executes.steps (executes : machine.Executes after) : after.steps = machine.steps + 1 := by
  cases executes with
  | asks code spent => exact (untouched_await _).steps
  | breaks code => exact (untouched_setMode _ _).steps
  | _ => rfl

/-- A move that starts no instruction misses no input, unless an instruction has waited for it. -/
theorem Balance.unstarted {begun : List Opcode} (elsewhere : machine.status ≠ .asking)
    (same : after.steps = machine.steps) (handed : Option Entry)
    (balance : Balance start after begun unwritten missed) :
    Balance start after begun unwritten (missed + (machine.misses after handed).toNat) := by
  have nothing : machine.misses after handed = false := by simp [misses, elsewhere, same]
  rwa [nothing]

/-- Executing an instruction keeps the balance. -/
theorem Executes.balance (executes : machine.Executes after)
    (balance : Balance start machine [] unwritten missed) :
    Balance start after after.begun (unwritten + after.outcome?.toList.count (some .write))
      (missed + (after.error?.any RunError.failsInput && machine.atInput).toNat) := by
  -- The instruction is booked when it starts; what it brings, or fails to bring, settles it.
  cases executes with
  | @enters pos body rest code =>
    -- A loop and an operation on the tape owe nothing behind their start.
    have done := (balance.begin pos .loop).settle nofun nofun nofun
    exact done.other rfl rfl rfl
  | @acts pos action rest tape code onTape act =>
    have done := (balance.begin pos (.basic action)).settle (by rintro ⟨⟩; cases onTape)
      (by rintro ⟨⟩; cases onTape) (by rintro ⟨⟩; cases onTape)
    exact done.other rfl rfl rfl
  | @faults pos action rest fault code onTape act =>
    have done := (balance.begin pos (.basic action)).settle (by rintro ⟨⟩; cases onTape)
      (by rintro ⟨⟩; cases onTape) (by rintro ⟨⟩; cases onTape)
    exact done.halt _
  | writes code => exact ((balance.begin _ _).recordOutput _).other rfl rfl rfl
  | unwritten code => exact (balance.begin _ _).fail.halt _
  | @takes pos rest byte pending code held =>
    have left : Balance start { machine.begin pos (.basic .input) with pending := pending }
        [.basic .input] unwritten missed := (balance.begin _ _).other rfl rfl rfl
    exact left.store byte rest
  | asks code spent => exact (balance.begin _ _).await
  | unasked code spent =>
    -- The instruction fails in the move that starts it.
    have atInput : machine.atInput = true := by simp [Machine.atInput, next?, code]
    rw [atInput]
    exact (balance.begin _ _).miss.halt _
  | breaks code =>
    exact (((balance.begin _ _).recordBreakpoint _).setMode .debugging).other rfl rfl rfl

/-- A machine that waits for nobody keeps the balance. -/
theorem Advances.balance (advances : machine.Advances after) (ready : machine.status = .ready)
    (balance : Balance start machine [] unwritten missed) :
    Balance start after after.begun (unwritten + after.outcome?.toList.count (some .write))
      (missed + (machine.misses after none).toNat) := by
  have elsewhere : machine.status ≠ .asking := by simp [ready]
  -- Nothing but an instruction is booked, so every other move leaves the books as they are.
  cases advances with
  | @leaves innermost outer code loops zero =>
    have left : Balance start { machine with code := innermost.rest, loops := outer } []
        unwritten missed := balance.other rfl rfl rfl
    refine .unstarted elsewhere (by rfl) _ ?_
    simpa [outcome?, begun, ready] using left
  | @repeats innermost outer code loops nonzero allowed =>
    have inside : Balance start { machine.checked with code := innermost.body } []
        unwritten missed := balance.other rfl rfl rfl
    refine .unstarted elsewhere (by rfl) _ ?_
    simpa [outcome?, begun, checked, ready] using inside
  | cut code around nonzero refused =>
    have checked : Balance start machine.checked [] unwritten missed := balance.other rfl rfl rfl
    refine .unstarted elsewhere (by rfl) _ ?_
    exact checked.halt _
  | ends code outside last =>
    refine .unstarted elsewhere (by rfl) _ ?_
    rcases last with rfl | rfl <;> exact balance.halt _
  | stops code debugging =>
    refine .unstarted elsewhere (by rfl) _ ?_
    exact balance.other rfl rfl rfl
  | unprompted code debugging =>
    -- The flush that fails is that of the console.
    refine .unstarted elsewhere (by rfl) _ ?_
    exact balance.halt _
  | executes running executes =>
    have started := executes.balance balance
    rwa [misses, if_neg elsewhere, executes.steps, decide_eq_true rfl, Bool.and_true]

/-- The console keeps the balance. -/
theorem Hears.balance {entry : Entry} (hears : machine.Hears entry after)
    (stopped : machine.status = .stopped) (balance : Balance start machine [] unwritten missed) :
    Balance start after after.begun (unwritten + after.outcome?.toList.count (some .write))
      (missed + (machine.misses after (some entry)).toNat) := by
  have elsewhere : machine.status ≠ .asking := by simp [stopped]
  have noted := balance.recordEntry entry
  cases hears with
  | replies text =>
    refine .unstarted elsewhere (by rfl) _ ?_
    exact noted.other rfl rfl rfl
  | unprompted text =>
    refine .unstarted elsewhere (by rfl) _ ?_
    exact noted.halt _
  | @goesOn _ next after heard executes =>
    -- Leaving the debugger is counted by itself, and starts no instruction.
    have same : next.next? = machine.next? ∧ next.steps = machine.steps ∧
        Balance start next [] unwritten missed := by
      cases heard with
      | stays text => exact ⟨rfl, rfl, noted⟩
      | leaves text =>
        have kept := untouched_setMode (machine.recordEntry (.line text)) .running
        exact ⟨by rw [next?, kept.code]; rfl, kept.steps, noted.setMode .running⟩
      | closes report pos =>
        have kept := untouched_setMode
          ((machine.recordEntry (.ended report)).record (.consoleClosed pos)) .running
        have closed : Balance start
            ((machine.recordEntry (.ended report)).record (.consoleClosed pos)) []
            unwritten missed := noted.record rfl
        exact ⟨by rw [next?, kept.code]; rfl, kept.steps, closed.setMode .running⟩
    obtain ⟨place, steps, heardBalance⟩ := same
    have started := executes.balance heardBalance
    rw [atInput, place] at started
    rwa [misses, if_neg elsewhere, executes.steps, steps, decide_eq_true rfl, Bool.and_true]
  | failed reason =>
    refine .unstarted elsewhere (by rfl) _ ?_
    exact noted.halt _
  | cancelled =>
    have cancelled : Balance start (machine.recordEntry .cancelled).cancel [] unwritten missed :=
      noted.other rfl rfl rfl
    refine .unstarted elsewhere (by rfl) _ ?_
    exact cancelled.halt _

/-- An input instruction that has waited keeps the balance. -/
theorem Takes.balance {rest : Code} {entry : Entry} (takes : machine.Takes rest entry after)
    (asking : machine.status = .asking)
    (balance : Balance start machine [.basic .input] unwritten missed) :
    Balance start after after.begun (unwritten + after.outcome?.toList.count (some .write))
      (missed + (machine.misses after (some entry)).toNat) := by
  have noted := balance.recordEntry entry
  rw [misses, if_pos asking]
  -- The instruction is settled by a byte, or missed, unless it waits on.
  cases takes with
  | @stores text byte pending fed =>
    have left : Balance start { machine.recordEntry (.line text) with pending := pending }
        [.basic .input] unwritten missed := noted.other rfl rfl rfl
    exact left.store byte rest
  | skips fed => exact noted.await
  | unasked fed => exact noted.miss.halt _
  | exhausts report =>
    have ended : Balance start ((machine.recordEntry (.ended report)).record
        (.inputExhausted machine.tape.pointer)) [] unwritten (missed + 1) := noted.miss.record rfl
    exact ended.other rfl rfl rfl
  | failed reason => exact noted.miss.halt _
  | cancelled =>
    have cancelled : Balance start (machine.recordEntry .cancelled).cancel [] unwritten
        (missed + 1) := noted.miss.other rfl rfl rfl
    exact cancelled.halt _

end

end Machine

namespace Session

/-- Every session that comes from one, with how its runs have ended, and with the number of input
instructions that have met the end of the input or failed. -/
inductive History (start : Session) : Session → List (Option RunError) → Nat → Prop
  /-- Nothing has happened. -/
  | refl : History start start [] 0
  /-- One more move of a run. -/
  | step {session : Session} {outcomes : List (Option RunError)} {missed : Nat}
      (history : History start session outcomes missed)
      (running : session.machine.isHalted = false) :
      History start session.step (outcomes ++ session.step.machine.outcome?.toList)
        (missed + (session.machine.misses session.step.machine session.handed?).toNat)
  /-- One more run. -/
  | rerun {session : Session} {outcomes : List (Option RunError)} {missed : Nat}
      (cancellation : Cancellation) (history : History start session outcomes missed)
      (halted : session.machine.isHalted = true) :
      History start (session.rerun cancellation) outcomes missed

variable {start session : Session} {outcomes : List (Option RunError)} {missed : Nat}

/-- A history goes on by one move, whose outcome and whose missed input are known. -/
theorem History.move {outcome : Option (Option RunError)} {misses : Bool}
    (history : History start session outcomes missed) (running : session.machine.isHalted = false)
    (ends : session.step.machine.outcome? = outcome)
    (lacks : session.machine.misses session.step.machine session.handed? = misses) :
    History start session.step (outcomes ++ outcome.toList) (missed + misses.toNat) := by
  rw [← ends, ← lacks]
  exact history.step running

/-- Whatever a session comes to has a history. -/
theorem Reaches.history (reached : start.Reaches session) :
    ∃ outcomes missed, History start session outcomes missed := by
  -- A run that is over makes no further moves, and its outcome is not counted again.
  induction reached with
  | refl => exact ⟨[], 0, .refl⟩
  | @step session _ ih =>
    obtain ⟨outcomes, missed, history⟩ := ih
    cases halted : session.machine.isHalted with
    | false => exact ⟨_, _, history.step halted⟩
    | true =>
      rw [step_of_halted halted]
      exact ⟨outcomes, missed, history⟩
  | rerun cancellation _ halted ih =>
    obtain ⟨outcomes, missed, history⟩ := ih
    exact ⟨outcomes, missed, history.rerun cancellation halted⟩

/-- What has a history is reached. -/
theorem History.reaches (history : History start session outcomes missed) :
    start.Reaches session := by
  induction history with
  | refl => exact .refl
  | step _ _ ih => exact ih.step
  | rerun cancellation _ halted ih => exact ih.rerun cancellation halted

/-- One move keeps the balance. -/
theorem balance_step {mode : Mode} {unwritten : Nat} (attentive : session.machine.Attentive)
    (running : session.machine.isHalted = false)
    (balance : session.machine.Balance mode session.machine.begun unwritten missed) :
    session.step.machine.Balance mode session.step.machine.begun
      (unwritten + session.step.machine.outcome?.toList.count (some .write))
      (missed + (session.machine.misses session.step.machine session.handed?).toNat) := by
  have deed := deed_step attentive
  have bare := Machine.Balance.bare_iff.mpr balance
  refine Machine.Balance.bare_iff.mp ?_
  -- Neither the output nor its deliveries matter for how the move ends.
  show session.step.machine.bare.Balance mode session.step.machine.bare.begun
    (unwritten + session.step.machine.bare.outcome?.toList.count (some .write))
    (missed + (session.machine.bare.misses session.step.machine.bare session.handed?).toNat)
  generalize session.step.machine.bare = after at deed ⊢
  cases deed with
  | advances ready advances =>
    have idle : session.machine.begun = [] := by simp [Machine.begun, ready]
    have unasked : session.handed? = none := by simp [handed?, ready]
    rw [idle] at bare
    rw [unasked]
    exact advances.balance ready bare
  | hears stopped handed hears =>
    have idle : session.machine.begun = [] := by simp [Machine.begun, stopped]
    rw [idle] at bare
    rw [handed]
    exact hears.balance stopped bare
  | takes asking handed spent code takes =>
    have waiting : session.machine.begun = [.basic .input] := by simp [Machine.begun, asking]
    rw [waiting] at bare
    rw [handed]
    exact takes.balance asking bare
  | rests halted =>
    rw [running] at halted
    cases halted

/-- The books balance after every history of a fresh machine. -/
theorem History.balance {blueprint : Blueprint} {script : List Entry}
    (history : History ⟨blueprint.machine, script⟩ session outcomes missed) :
    session.machine.Balance blueprint.machine.mode session.machine.begun
      (outcomes.count (some .write)) missed := by
  -- The invariant goes through every move, and a rerun begins with nothing half done.
  induction history with
  | refl => exact ⟨rfl, rfl, rfl, rfl, by simp [Machine.told, Machine.events, Blueprint.machine]⟩
  | step history running ih =>
    rw [List.count_append]
    exact balance_step history.reaches.attentive running ih
  | @rerun session _ _ _ _ halted ih =>
    -- A run that is over leaves no instruction half done.
    have idle : session.machine.begun = [] := by
      cases status : session.machine.status <;> simp [Machine.isHalted, status] at halted
      simp [Machine.begun, status]
    rw [idle] at ih
    exact ih.other rfl rfl rfl

end Session

/-- The statistics agree with the run. However often a fresh machine runs, and however its runs end:
the total is the number of steps; each breakpoint executed is counted as one; what has been executed
as output and not been put out is as many runs as failed to write their output; what has been
executed as input and not been taken in has met the end of the input or failed, but for an input
instruction that still waits; and the mode is the first one if it has changed an even number of
times. -/
theorem statistics_agree (blueprint : Blueprint) (script : List Entry) {session : Session}
    (reached : Session.Reaches ⟨blueprint.machine, script⟩ session) :
    (∃ outcomes missed, Session.History ⟨blueprint.machine, script⟩ session outcomes missed) ∧
    ∀ outcomes missed, Session.History ⟨blueprint.machine, script⟩ session outcomes missed →
      let stats := Stats.ofEvents session.machine.events
      let waiting := if session.machine.status = .asking then 1 else 0
      stats.total = .ofNat session.machine.steps ∧
      stats.count (.basic .breakpoint) = stats.breakpoints ∧
      stats.count (.basic .output) - stats.bytesOut = .ofNat (outcomes.count (some .write)) ∧
      stats.count (.basic .input) - stats.bytesIn = .ofNat (missed + waiting) ∧
      (session.machine.mode = blueprint.machine.mode ↔ stats.modeChanges % 2 = 0) := by
  refine ⟨reached.history, fun outcomes missed history => ?_⟩
  have balance := history.balance
  have tallies := Stats.tallies_ofEvents session.machine.events
  -- Nothing is half done but perhaps an input instruction.
  have begun : session.machine.begun = [] ∨ session.machine.begun = [.basic .input] := by
    unfold Machine.begun
    split <;> simp
  have breaks : (session.machine.told Event.opcodes).count (.basic .breakpoint) =
      (session.machine.told Event.breaks).length := by
    rcases begun with idle | waits
    · simpa [idle] using balance.breaks
    · simpa [waits] using balance.breaks
  have outputs : (session.machine.told Event.opcodes).count (.basic .output) =
      (session.machine.told Event.outputs).length + outcomes.count (some .write) := by
    rcases begun with idle | waits
    · simpa [idle] using balance.outputs
    · simpa [waits] using balance.outputs
  have inputs : (session.machine.told Event.opcodes).count (.basic .input) =
      (session.machine.told Event.inputs).length +
        (missed + if session.machine.status = .asking then 1 else 0) := by
    rw [balance.inputs, Machine.begun, Nat.add_assoc]
    split <;> rfl
  -- What is left of a sum without its first part is the second part, in words, too.
  have difference (first second : Nat) :
      UInt64.ofNat (first + second) - .ofNat first = .ofNat second := by
    rw [UInt64.ofNat_add, UInt64.add_comm, UInt64.add_sub_cancel]
  -- Each counter is the length of a list that the books tell about.
  refine ⟨?_, ?_, ?_, ?_, ?_⟩
  · exact tallies.total.trans (congrArg UInt64.ofNat balance.steps)
  · rw [tallies.count, tallies.breakpoints]
    exact congrArg UInt64.ofNat breaks
  · rw [tallies.count, tallies.bytesOut]
    exact (congrArg (UInt64.ofNat · - _) outputs).trans (difference _ _)
  · rw [tallies.count, tallies.bytesIn]
    exact (congrArg (UInt64.ofNat · - _) inputs).trans (difference _ _)
  · -- A word that starts again does so behind an even number.
    have parity (number : Nat) : UInt64.ofNat number % 2 = 0 ↔ number % 2 = 0 := by
      rw [← UInt64.toNat_inj, UInt64.toNat_mod, UInt64.toNat_ofNat']
      exact (Nat.mod_mod_of_dvd number (by decide : 2 ∣ 2 ^ 64)).congr_left
    rw [balance.mode, tallies.modeChanges]
    exact (parity _).symm

/-- A program meets the end of its input and then its breakpoint: the byte that it has not taken in
is missed, and it has changed its mode an odd number of times. -/
theorem statistics_agree_breakpoint :
    let program : Program := ⟨.op 0 .input (.op 1 .breakpoint .done), 2, 0⟩
    let blueprint : Blueprint := { Blueprint.ofProgram program with tapeLength := 1 }
    let start : Session := ⟨blueprint.machine, []⟩
    let session := start.step.step.step.step
    let stats := Stats.ofEvents session.machine.events
    start.History session [none] 1 ∧ session.machine.mode = .debugging ∧
      stats.total = .ofNat session.machine.steps ∧
      stats.count (.basic .breakpoint) = stats.breakpoints ∧
      stats.count (.basic .output) - stats.bytesOut = 0 ∧
      stats.count (.basic .input) - stats.bytesIn = 1 ∧ ¬ stats.modeChanges % 2 = 0 := by
  intro program blueprint start session stats
  -- The input instruction asks, is told the end of the input, and the other two moves end the run.
  have asks : start.History start.step [] 0 :=
    Session.History.refl.move (by decide +kernel) (by decide +kernel : _ = none)
      (by decide +kernel : _ = false)
  have exhausts : start.History start.step.step [] 1 :=
    asks.move (by decide +kernel) (by decide +kernel : _ = none) (by decide +kernel : _ = true)
  have breaks : start.History start.step.step.step [] 1 :=
    exhausts.move (by decide +kernel) (by decide +kernel : _ = none) (by decide +kernel : _ = false)
  have history : start.History session [none] 1 :=
    breaks.move (by decide +kernel) (by decide +kernel : _ = some none)
      (by decide +kernel : _ = false)
  have idle : session.machine.status = .halted none := by decide +kernel
  have debugging : session.machine.mode = .debugging := by decide +kernel
  obtain ⟨-, agree⟩ := statistics_agree blueprint [] history.reaches
  obtain ⟨total, breakpoints, outputs, inputs, mode⟩ := agree _ _ history
  rw [if_neg (by simp [idle])] at inputs
  rw [debugging] at mode
  exact ⟨history, debugging, total, breakpoints, outputs, inputs,
    fun even => nomatch mode.mpr even⟩

end TapeMachine
