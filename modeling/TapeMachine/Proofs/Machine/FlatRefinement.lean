import TapeMachine.Proofs.Lockstep
import TapeMachine.Proofs.Machine.Flat
import TapeMachine.Proofs.Machine.Place
import TapeMachine.Proofs.Machine.Undisturbed

/-! The machine that walks the tree of a program does what the flat machine does over its
listing. -/

namespace TapeMachine

/-- The position of an instruction that starts. -/
def Event.position : Event → List Nat
  | exec pos .. => [pos]
  | _ => []

/-- What the line source answers when it is asked. -/
def Event.handed : Event → List Bytes
  | read line => [line]
  | readError message => [message]
  | _ => []

/-- The flat machine has the data of a machine that runs on with an endless sink. -/
structure Mirrors (machine : Machine) (flat : FlatMachine) : Prop where
  mode : machine.mode = .running
  unlimited : machine.writer.Unlimited
  tape : machine.tape = flat.tape
  pending : machine.pending = flat.pending
  output : machine.emitted = flat.output
  reads : (machine.told Event.handed).length = flat.reads
  visited : machine.told Event.position = flat.visited
  steps : machine.steps = flat.visited.length

/-- The two machines are in front of the same symbol, with the same loops around it. -/
structure Facing (machine : Machine) (flat : FlatMachine) : Prop where
  ready : machine.status = .ready
  calm : machine.cancellation = .never
  running : flat.outcome = none
  front : flat.returning = false
  stands : machine.StandsAt flat.counter

/-- The two machines have come to the same place, or to the same end. -/
def InPlace (machine : Machine) (flat : FlatMachine) : Prop :=
  Facing machine flat ∨
    ∃ error, machine.status = .halted error ∧ flat.outcome = some error ∧
      machine.writer.buffer = #[]

/-- The two machines are in step over a listing. -/
structure InStep (listing : Bytes) (inputMode : InputMode) (session : Session)
    (flat : FlatMachine) : Prop where
  shown : session.machine.listing.toList = listing
  taken : session.machine.inputMode = inputMode
  script : session.script = flat.script
  data : Mirrors session.machine flat
  place : InPlace session.machine flat

namespace FlatMachine

variable (flat : FlatMachine) (value : UInt8)

/-- The flat machine reads the cell that its tape has under the pointer. -/
theorem cell_eq : flat.cell = flat.tape.cell := by
  rw [cell, Tape.cell, Array.getD_eq_getD_getElem?]

/-- Looking at each address in turn changes the one cell under the pointer. -/
theorem withCell_eq : flat.withCell value = { flat with tape := flat.tape.write value } := by
  -- The two arrays are compared address by address.
  have cells : (flat.tape.cells.mapIdx fun address kept =>
      if address = flat.tape.pointer then value else kept) =
        flat.tape.cells.setIfInBounds flat.tape.pointer value := by
    refine Array.ext (by simp) fun place looked written => ?_
    have inside : place < flat.tape.cells.size := by simpa using looked
    rw [Array.getElem_mapIdx, Array.getElem_setIfInBounds inside]
    simp only [eq_comm]
  rw [withCell, cells, Tape.write]

end FlatMachine

namespace Mirrors

variable {machine : Machine} {flat : FlatMachine}

/-- Ending the run changes none of the data. -/
theorem finish (mirrors : Mirrors machine flat) (error : Option RunError) :
    Mirrors (machine.finish error) flat := by
  have kept := machine.untouched_finish error
  refine ⟨mirrors.mode, kept.unlimited mirrors.unlimited, kept.tape.trans mirrors.tape,
    kept.pending.trans mirrors.pending, ?_, ?_, ?_, kept.steps.trans mirrors.steps⟩
  · rw [Machine.emitted_finish mirrors.unlimited, mirrors.output]
  · rw [machine.told_finish error (fun _ => rfl) (fun _ _ _ _ _ => rfl), mirrors.reads]
  · rw [machine.told_finish error (fun _ => rfl) (fun _ _ _ _ _ => rfl), mirrors.visited]

/-- The start of an instruction is a visit. -/
theorem begin (mirrors : Mirrors machine flat) {pos : Nat} (here : flat.counter = pos)
    (opcode : Opcode) : Mirrors (machine.begin pos opcode) flat.visit where
  mode := mirrors.mode
  unlimited := mirrors.unlimited
  tape := mirrors.tape
  pending := mirrors.pending
  output := by
    rw [Machine.emitted_begin, mirrors.output]
    rfl
  reads := by
    rw [machine.told_begin pos opcode fun _ _ _ _ => rfl, mirrors.reads]
    rfl
  visited := by
    rw [FlatMachine.visit, ← mirrors.visited, here]
    simp [Machine.told, Machine.events, Machine.begin, Event.position]
  steps := by simp [Machine.begin, mirrors.steps, FlatMachine.visit]

/-- Both machines may write the same byte to their tape. -/
theorem write (mirrors : Mirrors machine flat) (value : UInt8) :
    Mirrors { machine with tape := machine.tape.write value } (flat.withCell value) := by
  rw [flat.withCell_eq]
  exact { mirrors with tape := by rw [mirrors.tape] }

/-- The current cells are the same. -/
theorem cell (mirrors : Mirrors machine flat) : machine.tape.cell = flat.cell := by
  rw [mirrors.tape, flat.cell_eq]

/-- Writing down an event that is no output, no answer and no start changes none of the data. -/
theorem record (mirrors : Mirrors machine flat) {event : Event} (sunk : event.sunk = [])
    (handed : event.handed = []) (position : event.position = []) :
    Mirrors (machine.record event) flat :=
  { mirrors with
    output := by rw [Machine.emitted_record _ sunk, mirrors.output]
    reads := by rw [Machine.told_record, handed, List.append_nil, mirrors.reads]
    visited := by rw [Machine.told_record, position, List.append_nil, mirrors.visited] }

/-- An answer of the line source counts as one read. -/
theorem recordEntry (mirrors : Mirrors machine flat) (entry : Entry) :
    Mirrors (machine.recordEntry entry) { flat with reads := flat.reads + 1 } := by
  -- Whatever the answer is, it is told by one event that shows nothing else.
  have counted : ∀ event : Event, event.sunk = [] → event.handed.length = 1 →
      event.position = [] →
      Mirrors (machine.record event) { flat with reads := flat.reads + 1 } := by
    intro event sunk handed position
    exact { mirrors with
      output := by rw [Machine.emitted_record _ sunk, mirrors.output]
      reads := by rw [Machine.told_record, List.length_append, handed, mirrors.reads]
      visited := by rw [Machine.told_record, position, List.append_nil, mirrors.visited] }
  cases entry <;> exact counted _ rfl rfl rfl

/-- Asking for a line changes none of the data. -/
theorem ask (mirrors : Mirrors machine flat) : Mirrors machine.ask flat := by
  have kept := machine.untouched_flush
  have sound := (kept.unlimited mirrors.unlimited).sound
  have flushed : Mirrors machine.flush flat := {
    mode := mirrors.mode
    unlimited := kept.unlimited mirrors.unlimited
    tape := mirrors.tape
    pending := mirrors.pending
    output := (Machine.emitted_flush mirrors.unlimited).trans mirrors.output
    reads := by rw [machine.told_flush (fun _ => rfl), mirrors.reads]
    visited := by rw [machine.told_flush (fun _ => rfl), mirrors.visited]
    steps := mirrors.steps }
  -- The prompt is an event of its own, and none that the flat machine knows.
  simp only [Machine.ask, sound, Bool.false_eq_true, if_false]
  split
  · have prompted : Mirrors (machine.flush.record .prompted) flat := flushed.record rfl rfl rfl
    exact { prompted with }
  · exact { flushed with }

/-- A machine that runs on puts the current cell out and nothing else. -/
theorem emit (mirrors : Mirrors machine flat) (rest : Code) :
    Mirrors (machine.emit rest) { flat with output := flat.output ++ [flat.cell] } ∧
      machine.emit rest =
        ((machine.put machine.tape.cell).record (.output machine.tape.cell)).proceed rest := by
  have kept := machine.untouched_put machine.tape.cell
  have whole := Machine.emit_of_running mirrors.unlimited mirrors.mode rest
  refine ⟨?_, whole⟩
  rw [whole]
  -- The byte is put out before it is told, so the two are looked at one after the other.
  have written : Mirrors (machine.put machine.tape.cell)
      { flat with output := flat.output ++ [flat.cell] } := {
    mode := mirrors.mode
    unlimited := kept.unlimited mirrors.unlimited
    tape := mirrors.tape
    pending := mirrors.pending
    output := by rw [Machine.emitted_put mirrors.unlimited, mirrors.output, mirrors.cell]
    reads := by rw [machine.told_put _ (fun _ => rfl), mirrors.reads]
    visited := by rw [machine.told_put _ (fun _ => rfl), mirrors.visited]
    steps := mirrors.steps }
  have told : Mirrors ((machine.put machine.tape.cell).record (.output machine.tape.cell))
      { flat with output := flat.output ++ [flat.cell] } := written.record rfl rfl rfl
  exact { told with }

end Mirrors

namespace FlatMachine

variable {listing : Bytes} {inputMode : InputMode} {flat : FlatMachine}

/-- Behind the last symbol the run is over. -/
theorem step_end (running : flat.outcome = none) (here : listing[flat.counter]? = none) :
    flat.step listing inputMode = flat.halt none := by
  simp [step, isHalted, running, here]

/-- An operation is visited and done. -/
theorem step_op (running : flat.outcome = none) {action : Op}
    (here : listing[flat.counter]? = some action.symbol) :
    flat.step listing inputMode = flat.visit.operate inputMode action := by
  simp [step, isHalted, running, here]

/-- A loop that is entered from the front is visited and tested. -/
theorem step_loop (running : flat.outcome = none) (front : flat.returning = false)
    (here : listing[flat.counter]? = some Opcode.loop.symbol) :
    flat.step listing inputMode = flat.visit.test listing := by
  simp [step, isHalted, running, here, front]

/-- From the end of a loop the machine goes back to its start and tests it again. -/
theorem step_loopEnd (running : flat.outcome = none)
    (here : listing[flat.counter]? = some loopEnd)
    (back : listing[loopStartOf listing flat.counter]? = some Opcode.loop.symbol) :
    (step listing inputMode)^[2] flat =
      { flat with
        counter := loopStartOf listing flat.counter, returning := true }.test listing := by
  simp [step, isHalted, running, here, back]

/-- A run that is over goes no further. -/
theorem step_of_halted (finished : flat.isHalted = true) : flat.step listing inputMode = flat := by
  simp [step, finished]

end FlatMachine

/-- Both machines are at an operation in front of `rest`, and nothing of it has been done yet. -/
structure Poised (listing : Bytes) (inputMode : InputMode) (rest : Code) (machine : Machine)
    (flat : FlatMachine) : Prop where
  shown : machine.listing.toList = listing
  taken : machine.inputMode = inputMode
  calm : machine.cancellation = .never
  running : flat.outcome = none
  front : flat.returning = false
  lies : rest.LiesAt listing (flat.counter + 1)
  around : Encloses listing (flat.counter + 1 + rest.size) machine.loops
  data : Mirrors machine flat

/-- Both runs may end with the same error. -/
theorem inStep_finish {listing : Bytes} {inputMode : InputMode} {machine : Machine}
    {flat : FlatMachine} (mirrors : Mirrors machine flat)
    (shown : machine.listing.toList = listing) (taken : machine.inputMode = inputMode)
    (error : Option RunError) :
    InStep listing inputMode ⟨machine.finish error, flat.script⟩ (flat.halt error) where
  shown := by rw [(machine.untouched_finish error).listing, shown]
  taken := (machine.untouched_finish error).inputMode.trans taken
  script := rfl
  data := { mirrors.finish error with }
  place := by
    refine .inr ⟨error, Machine.status_finish_of_unlimited mirrors.unlimited error, rfl, ?_⟩
    exact Machine.buffer_flush mirrors.unlimited

namespace Poised

variable {listing : Bytes} {inputMode : InputMode} {rest : Code} {machine : Machine}
  {flat : FlatMachine}

/-- Both machines may end their runs. -/
theorem finish (poised : Poised listing inputMode rest machine flat) (error : Option RunError) :
    InStep listing inputMode ⟨machine.finish error, flat.script⟩ (flat.halt error) :=
  inStep_finish poised.data poised.shown poised.taken error

/-- Both machines may go on behind the operation. -/
theorem proceed (poised : Poised listing inputMode rest machine flat) :
    InStep listing inputMode ⟨machine.proceed rest, flat.script⟩ flat.goOn where
  shown := poised.shown
  taken := poised.taken
  script := rfl
  data := { poised.data with }
  place := by
    refine .inl ⟨rfl, poised.calm, poised.running, poised.front, ?_⟩
    have shown := poised.shown
    -- One position further, the rest of the code comes next.
    simp only [Machine.StandsAt, Machine.proceed, FlatMachine.goOn, shown]
    exact ⟨poised.lies, poised.around⟩

/-- Both machines may write a byte to the tape. -/
theorem write (poised : Poised listing inputMode rest machine flat) (value : UInt8) :
    Poised listing inputMode rest { machine with tape := machine.tape.write value }
      (flat.withCell value) :=
  { poised with data := poised.data.write value }

/-- Both machines may store a byte of input and go on. -/
theorem store (poised : Poised listing inputMode rest machine flat) (byte : UInt8) :
    InStep listing inputMode ⟨machine.store byte rest, flat.script⟩
      (flat.withCell byte).goOn := by
  have stored : Poised listing inputMode rest
      ({ machine with tape := machine.tape.write byte }.record (.input byte))
      (flat.withCell byte) :=
    { poised with data := (poised.data.write byte).record rfl rfl rfl }
  exact stored.proceed

/-- Both machines may take their pointers to the same cell. -/
theorem goTo (poised : Poised listing inputMode rest machine flat) (address : Nat) :
    InStep listing inputMode
      ⟨({ machine with tape := { machine.tape with pointer := address } } : Machine).proceed rest,
        flat.script⟩ (flat.goTo address) := by
  have there : Poised listing inputMode rest
      { machine with tape := { machine.tape with pointer := address } }
      { flat with tape := ⟨flat.tape.cells, address⟩ } :=
    { poised with data := { poised.data with tape := by rw [poised.data.tape] } }
  exact there.proceed

/-- Both machines may end their runs because the pointer cannot leave its cell. -/
theorem stuck (poised : Poised listing inputMode rest machine flat) (action : Op)
    (fault : PointerFault) :
    InStep listing inputMode
      ⟨machine.finish (some (.pointer flat.counter (.basic action) machine.tape.pointer fault)),
        flat.script⟩ (flat.stuck action fault) := by
  rw [poised.data.tape]
  exact poised.finish _

/-- An operation that does not wait for input is done by both machines alike. -/
theorem operate (poised : Poised listing inputMode rest machine flat) {action : Op}
    (plain : action ≠ .breakpoint) (supplied : action = .input → flat.pending ≠ []) :
    InStep listing inputMode ⟨machine.operate flat.counter action rest, flat.script⟩
      (flat.operate inputMode action) := by
  have same := poised.data.tape
  cases action with
  | moveRight =>
    -- The tape refuses the move behind its last cell, where the flat machine compares addresses.
    simp only [Machine.operate, FlatMachine.operate, Tape.moveRight, ← same]
    by_cases inside : machine.tape.pointer + 1 < machine.tape.length
    · have further : ¬ machine.tape.cells.size ≤ machine.tape.pointer + 1 := Nat.not_le.mpr inside
      rw [if_pos inside, if_neg further]
      exact poised.goTo _
    · have last : machine.tape.cells.size ≤ machine.tape.pointer + 1 := Nat.not_lt.mp inside
      rw [if_neg inside, if_pos last]
      exact poised.stuck _ _
  | moveLeft =>
    -- To the left only the first cell refuses the move, on both sides by its address.
    simp only [Machine.operate, FlatMachine.operate, Tape.moveLeft, ← same]
    by_cases first : machine.tape.pointer = 0
    · rw [if_neg (Nat.not_lt.mpr (Nat.le_of_eq first)), if_pos first]
      exact poised.stuck _ _
    · rw [if_pos (Nat.pos_of_ne_zero first), if_neg first]
      exact poised.goTo _
  | increment =>
    simp only [Machine.operate, FlatMachine.operate, ← poised.data.cell]
    exact (poised.write (machine.tape.cell + 1)).proceed
  | decrement =>
    simp only [Machine.operate, FlatMachine.operate, ← poised.data.cell]
    exact (poised.write (machine.tape.cell - 1)).proceed
  | output =>
    obtain ⟨written, whole⟩ := poised.data.emit rest
    have emitted : Poised listing inputMode rest (machine.emit rest)
        { flat with output := flat.output ++ [flat.cell] } := by
      rw [whole] at written ⊢
      exact { poised with data := written }
    -- The machine has gone on already when the byte is out.
    have again : (machine.emit rest).proceed rest = machine.emit rest := by rw [whole]; rfl
    have behind := emitted.proceed
    rw [again] at behind
    exact behind
  | input =>
    cases waiting : flat.pending with
    | nil => exact absurd waiting (supplied rfl)
    | cons byte pending =>
      -- A byte that is pending is taken without asking.
      have used : Poised listing inputMode rest { machine with pending := pending }
          { flat with pending := pending } :=
        { poised with data := { poised.data with pending := rfl } }
      have direct := used.store byte
      simpa [Machine.operate, Machine.takeInput, poised.data.pending, waiting,
        FlatMachine.operate, FlatMachine.takeInput, takeByte] using direct
  | breakpoint => exact absurd rfl plain

/-- What leaves the program untouched leaves both machines at their operation. -/
theorem untouched (poised : Poised listing inputMode rest machine flat) {after : Machine}
    {other : FlatMachine} (kept : machine.Untouched after) (counter : other.counter = flat.counter)
    (returning : other.returning = flat.returning) (outcome : other.outcome = flat.outcome)
    (data : Mirrors after other) : Poised listing inputMode rest after other where
  shown := by rw [kept.listing, poised.shown]
  taken := kept.inputMode.trans poised.taken
  calm := kept.cancellation.trans poised.calm
  running := outcome.trans poised.running
  front := returning.trans poised.front
  lies := by rw [counter]; exact poised.lies
  around := by rw [counter, kept.loops]; exact poised.around
  data := data

/-- An answer of the line source leaves both machines at their operation. -/
theorem recordEntry (poised : Poised listing inputMode rest machine flat) (entry : Entry)
    (script : List Entry) :
    Poised listing inputMode rest (machine.recordEntry entry)
      { flat with reads := flat.reads + 1, script := script } := by
  have counted := poised.data.recordEntry entry
  exact poised.untouched (machine.untouched_recordEntry entry) rfl rfl rfl { counted with }

/-- Asking for a line leaves both machines at their operation. -/
theorem ask (poised : Poised listing inputMode rest machine flat) :
    Poised listing inputMode rest machine.ask flat :=
  poised.untouched machine.untouched_ask rfl rfl rfl poised.data.ask

/-- At the end of the input both machines go on behind the operation. -/
theorem exhaust (poised : Poised listing inputMode rest machine flat) (pointer : Nat) :
    InStep listing inputMode ⟨(machine.record (.inputExhausted pointer)).proceed rest, flat.script⟩
      flat.goOn := by
  have noted : Poised listing inputMode rest (machine.record (.inputExhausted pointer)) flat :=
    { poised with data := poised.data.record rfl rfl rfl }
  exact noted.proceed

end Poised

/-- A machine that waits for input is handed the next entry. -/
theorem Session.step_asking {machine : Machine} (asking : machine.status = .asking) {place : Nat}
    {action : Op} {rest : Code} (code : machine.code = .op place action rest) (entry : Entry)
    (script : List Entry) :
    Session.step ⟨machine, entry :: script⟩ =
      ⟨(machine.recordEntry entry).receiveInput rest entry, script⟩ := by
  simp [Session.step, Session.handOver, Machine.receive, asking, code]

/-- A machine that waits for input behind the last entry is handed the end of the input. -/
theorem Session.step_asking_end {machine : Machine} (asking : machine.status = .asking)
    {place : Nat} {action : Op} {rest : Code} (code : machine.code = .op place action rest) :
    Session.step ⟨machine, []⟩ =
      ⟨(machine.recordEntry .endOfInput).receiveInput rest .endOfInput, []⟩ := by
  simp [Session.step, Session.handOver, Machine.receive, asking, code]

/-- An input instruction that has to wait takes the same byte as the flat machine. -/
theorem Poised.receive {listing : Bytes} {inputMode : InputMode} {rest : Code} {place : Nat}
    (script : List Entry) :
    ∀ (machine : Machine) (flat : FlatMachine), Poised listing inputMode rest machine flat →
      machine.status = .asking → machine.code = .op place .input rest → flat.pending = [] →
      flat.script = script →
      ∃ moves, 0 < moves ∧ InStep listing inputMode (Session.step^[moves] ⟨machine, script⟩)
        (flat.takeInput inputMode) := by
  -- Only an empty line makes the instruction ask again, with one entry less.
  induction script with
  | nil =>
    intro machine flat poised asking code spent left
    have ended := (poised.recordEntry .endOfInput []).exhaust
      (machine.recordEntry .endOfInput).tape.pointer
    refine ⟨1, Nat.one_pos, ?_⟩
    rw [Function.iterate_one, Session.step_asking_end asking code]
    simpa [Machine.receiveInput, Entry.endOfInput, FlatMachine.takeInput, takeByte, nextByte, spent,
      left] using ended
  | cons entry script ih =>
    intro machine flat poised asking code spent left
    have noted := poised.recordEntry entry script
    have first := Session.step_asking asking code entry script
    -- Each entry but an empty line lets the instruction go on or ends the run.
    cases entry with
    | ended report =>
      have ended := noted.exhaust (machine.recordEntry (.ended report)).tape.pointer
      refine ⟨1, Nat.one_pos, ?_⟩
      rw [Function.iterate_one, first]
      simpa [Machine.receiveInput, FlatMachine.takeInput, takeByte, nextByte, spent, left] using
        ended
    | failed reason =>
      refine ⟨1, Nat.one_pos, ?_⟩
      rw [Function.iterate_one, first]
      simpa [Machine.receiveInput, FlatMachine.takeInput, takeByte, nextByte, spent, left] using
        noted.finish (some (.readInput (.failed reason)))
    | cancelled =>
      have cancelled : Mirrors (machine.recordEntry .cancelled).cancel
          { flat with reads := flat.reads + 1, script := script } := { noted.data with }
      refine ⟨1, Nat.one_pos, ?_⟩
      rw [Function.iterate_one, first]
      simpa [Machine.receiveInput, FlatMachine.takeInput, takeByte, nextByte, spent, left] using
        inStep_finish cancelled noted.shown noted.taken (some (.readInput .cancelled))
    | line text =>
      have taken := noted.taken
      cases inputMode with
      | stream =>
        refine ⟨1, Nat.one_pos, ?_⟩
        rw [Function.iterate_one, first]
        cases text with
        | nil =>
          simpa [Machine.receiveInput, taken, FlatMachine.takeInput, takeByte, nextByte, spent,
            left] using noted.store newline
        | cons byte more =>
          have kept : Poised listing .stream rest
              { machine.recordEntry (.line (byte :: more)) with pending := more ++ [newline] }
              { flat with
                pending := more ++ [newline], reads := flat.reads + 1, script := script } :=
            { noted with data := { noted.data with pending := rfl } }
          simpa [Machine.receiveInput, taken, FlatMachine.takeInput, takeByte, nextByte, spent,
            left] using kept.store byte
      | line =>
        cases text with
        | nil =>
          have unlimited := noted.data.unlimited
          -- The instruction is still the next one, and what it has done is one more read.
          have again : (machine.recordEntry (.line [])).ask.code = .op place .input rest :=
            (Machine.untouched_ask _).code.trans
              ((machine.untouched_recordEntry (.line [])).code.trans code)
          obtain ⟨moves, positive, reached⟩ := ih _ _ noted.ask
            (Machine.status_ask_of_unlimited unlimited) again spent rfl
          refine ⟨moves + 1, Nat.succ_pos _, ?_⟩
          rw [Function.iterate_succ_apply, first]
          simp only [Machine.receiveInput, taken]
          simpa [FlatMachine.takeInput, takeByte, nextByte, spent, left, Nat.add_assoc,
            Nat.add_comm] using reached
        | cons byte more =>
          refine ⟨1, Nat.one_pos, ?_⟩
          rw [Function.iterate_one, first]
          simpa [Machine.receiveInput, taken, FlatMachine.takeInput, takeByte, nextByte, spent,
            left] using noted.store byte

/-- A loop is tested by both machines alike. -/
theorem inStep_test {listing : Bytes} {inputMode : InputMode} {machine : Machine}
    {flat : FlatMachine} (mirrors : Mirrors machine flat)
    (shown : machine.listing.toList = listing) (taken : machine.inputMode = inputMode)
    (ready : machine.status = .ready) (calm : machine.cancellation = .never)
    (running : flat.outcome = none) {innermost : ActiveLoop} {outer : List ActiveLoop}
    (loops : machine.loops = innermost :: outer)
    (around : Encloses listing (flat.counter + innermost.body.size + 1) (innermost :: outer)) :
    InStep listing inputMode ⟨machine.test innermost outer, flat.script⟩ (flat.test listing) := by
  have enclosed := around
  obtain ⟨start, same, first, inside, stop, behind, outside⟩ := around
  obtain rfl : start = flat.counter := by omega
  by_cases zero : machine.tape.cell = 0
  · -- The loop is left behind its end.
    have jump : (flat.test listing).counter = flat.counter + innermost.body.size + 1 + 1 := by
      rw [FlatMachine.test, ← mirrors.cell, if_pos zero, loopEndOf_eq inside stop]
    have tested : machine.test innermost outer =
        { machine with code := innermost.rest, loops := outer } := by
      rw [Machine.test_of_calm calm, if_pos zero]
    rw [tested]
    refine ⟨shown, taken, rfl, { mirrors with }, .inl ⟨ready, calm, running, rfl, ?_⟩⟩
    rw [jump, Machine.StandsAt, shown]
    exact ⟨behind, outside⟩
  · -- The body is entered behind the start of the loop.
    have into : (flat.test listing).counter = flat.counter + 1 := by
      rw [FlatMachine.test, ← mirrors.cell, if_neg zero]
    have tested : machine.test innermost outer = { machine with code := innermost.body } := by
      rw [Machine.test_of_calm calm, if_neg zero]
    rw [tested]
    refine ⟨shown, taken, rfl, { mirrors with }, .inl ⟨ready, calm, running, rfl, ?_⟩⟩
    rw [into, Machine.StandsAt, shown, loops]
    refine ⟨inside, ?_⟩
    -- The body ends where the loop has its closing bracket.
    rw [show flat.counter + 1 + innermost.body.size = flat.counter + innermost.body.size + 1 by
      omega]
    exact enclosed

section Progress

variable {listing : Bytes} {inputMode : InputMode} {machine : Machine} {flat : FlatMachine}

/-- Both machines leave the end of a sequence together. -/
theorem Facing.progress_done (facing : Facing machine flat) (data : Mirrors machine flat)
    (shown : machine.listing.toList = listing) (taken : machine.inputMode = inputMode)
    (code : machine.code = .done) :
    ∃ j, 0 < j ∧ InStep listing inputMode ⟨machine.advance, flat.script⟩
      ((FlatMachine.step listing inputMode)^[j] flat) := by
  have around := facing.stands.2
  rw [shown, code, Code.size, Nat.add_zero] at around
  cases loops : machine.loops with
  | nil =>
    -- Nothing is left: the counter stands behind the last symbol.
    rw [loops] at around
    have here : listing[flat.counter]? = none := List.getElem?_eq_none (Nat.le_of_eq around.symm)
    refine ⟨1, Nat.one_pos, ?_⟩
    rw [Function.iterate_one, FlatMachine.step_end facing.running here]
    simpa [Machine.advance, code, loops] using inStep_finish data shown taken none
  | cons innermost outer =>
    -- The end of a body: the flat machine goes back to the start of the loop first.
    rw [loops] at around
    have enclosed := around
    obtain ⟨start, same, first, inside, stop, -⟩ := around
    have back : loopStartOf listing flat.counter = start := by
      rw [same]
      exact loopStartOf_eq first inside
    have returned : Mirrors machine
        { flat with counter := loopStartOf listing flat.counter, returning := true } :=
      { data with }
    have tested := inStep_test returned shown taken facing.ready facing.calm facing.running loops
      (by rw [back, ← same]; exact enclosed)
    refine ⟨2, Nat.two_pos, ?_⟩
    rw [FlatMachine.step_loopEnd facing.running stop (by rw [back, first])]
    simpa [Machine.advance, code, loops] using tested

/-- Both machines do an operation together. -/
theorem Facing.progress_op (facing : Facing machine flat) (data : Mirrors machine flat)
    (shown : machine.listing.toList = listing) (taken : machine.inputMode = inputMode)
    (plain : Op.breakpoint.symbol ∉ listing) {place : Nat} {action : Op} {rest : Code}
    (code : machine.code = .op place action rest) :
    ∃ moves, InStep listing inputMode (Session.step^[moves] ⟨machine.advance, flat.script⟩)
      (FlatMachine.step listing inputMode flat) := by
  obtain ⟨lies, around⟩ := facing.stands
  rw [shown, code] at lies around
  obtain ⟨rfl, here, behind⟩ := lies
  have execute : machine.advance =
      (machine.begin flat.counter (.basic action)).operate flat.counter action rest := by
    simp [Machine.advance, code, data.mode, Machine.execute]
  have poised : Poised listing inputMode rest (machine.begin flat.counter (.basic action))
      flat.visit := {
    shown := shown
    taken := taken
    calm := Machine.cancellation_begin facing.calm _ _
    running := facing.running
    front := facing.front
    lies := behind
    around := by
      rw [Code.size] at around
      rw [FlatMachine.visit, show flat.counter + 1 + rest.size = flat.counter + (rest.size + 1) by
        omega]
      exact around
    data := data.begin rfl _ }
  rw [FlatMachine.step_op facing.running here]
  by_cases waits : action = .input ∧ flat.pending = []
  · -- An input instruction without a pending byte waits for the line source.
    obtain ⟨rfl, none⟩ := waits
    have asks : machine.advance = (machine.begin flat.counter (.basic .input)).ask := by
      rw [execute, Machine.operate, Machine.takeInput]
      simp [Machine.begin, data.pending, none]
    obtain ⟨moves, -, reached⟩ := Poised.receive flat.script _ _ poised.ask
      (Machine.status_ask_of_unlimited poised.data.unlimited)
      ((Machine.untouched_ask _).code.trans code) none rfl
    refine ⟨moves, ?_⟩
    rw [asks]
    exact reached
  · have noBreak : action ≠ .breakpoint := by
      rintro rfl
      exact plain (List.mem_of_getElem? here)
    refine ⟨0, ?_⟩
    rw [execute]
    exact poised.operate noBreak fun input none => waits ⟨input, none⟩

/-- Both machines enter a loop and test it; for the machine on the tree these are two moves. -/
theorem Facing.progress_loop (facing : Facing machine flat) (data : Mirrors machine flat)
    (shown : machine.listing.toList = listing) (taken : machine.inputMode = inputMode)
    {place : Nat} {body rest : Code} (code : machine.code = .loop place body rest) :
    InStep listing inputMode (Session.step ⟨machine.advance, flat.script⟩)
      (FlatMachine.step listing inputMode flat) := by
  have enclosed := facing.stands.enclosed code
  have lies := facing.stands.1
  rw [shown] at enclosed lies
  rw [code] at lies
  obtain ⟨rfl, here, -⟩ := lies
  -- The machine enters the loop in one move and tests it in the next; the flat machine does both
  -- at once.
  have entered : machine.advance = { machine.begin flat.counter .loop with
      code := .done, loops := ⟨body, rest⟩ :: machine.loops, status := .ready } := by
    simp [Machine.advance, code, data.mode, Machine.execute]
  have visited : Mirrors machine.advance flat.visit := by
    rw [entered]
    exact { data.begin rfl .loop with }
  have calm : machine.advance.cancellation = .never := by
    rw [entered]
    exact Machine.cancellation_begin facing.calm flat.counter .loop
  have listed : machine.advance.listing.toList = listing := by rw [entered]; exact shown
  have typed : machine.advance.inputMode = inputMode := by rw [entered]; exact taken
  have ready : machine.advance.status = .ready := by rw [entered]
  have empty : machine.advance.code = .done := by rw [entered]
  have loops : machine.advance.loops = ⟨body, rest⟩ :: machine.loops := by rw [entered]
  have tested := inStep_test visited listed typed ready calm facing.running loops enclosed
  have second : Session.step ⟨machine.advance, flat.script⟩ =
      ⟨machine.advance.test ⟨body, rest⟩ machine.loops, flat.script⟩ := by
    rw [Session.step, ready]
    dsimp only
    rw [Machine.advance.eq_def machine.advance, empty, loops]
  rw [second, FlatMachine.step_loop facing.running facing.front here]
  exact tested

/-- From one place both machines come to the next one together. -/
theorem InStep.progress (plain : Op.breakpoint.symbol ∉ listing) {session : Session}
    (inStep : InStep listing inputMode session flat) (going : ¬ session.machine.isHalted = true) :
    ∃ i j, 0 < i ∧ 0 < j ∧ InStep listing inputMode (Session.step^[i] session)
      ((FlatMachine.step listing inputMode)^[j] flat) := by
  rcases session with ⟨machine, script⟩
  obtain ⟨shown, taken, rfl, data, facing | ⟨error, halted, -⟩⟩ := inStep <;>
    dsimp only at *
  · have advance : Session.step ⟨machine, flat.script⟩ = ⟨machine.advance, flat.script⟩ := by
      simp [Session.step, facing.ready]
    cases code : machine.code with
    | done =>
      obtain ⟨j, positive, reached⟩ := facing.progress_done data shown taken code
      exact ⟨1, j, Nat.one_pos, positive, by rw [Function.iterate_one, advance]; exact reached⟩
    | op place action rest =>
      obtain ⟨moves, reached⟩ := facing.progress_op data shown taken plain code
      refine ⟨moves + 1, 1, Nat.succ_pos _, Nat.one_pos, ?_⟩
      rw [Function.iterate_succ_apply, advance]
      exact reached
    | loop place body rest =>
      refine ⟨2, 1, Nat.two_pos, Nat.one_pos, ?_⟩
      rw [Function.iterate_succ_apply, Function.iterate_one, advance]
      exact facing.progress_loop data shown taken code
  · simp [Machine.isHalted, halted] at going

end Progress

/-- The two machines keep in step over a listing without breakpoints. -/
theorem flat_lockstep {listing : Bytes} (inputMode : InputMode)
    (plain : Op.breakpoint.symbol ∉ listing) :
    Lockstep Session.step (FlatMachine.step listing inputMode)
      (fun session => session.machine.isHalted = true) (fun flat => flat.isHalted = true)
      (InStep listing inputMode) where
  leftStill _ halted := Session.step_of_halted halted
  rightStill _ finished := FlatMachine.step_of_halted finished
  together session flat inStep := by
    -- Machines in the same place are both running, and machines at the same end are not.
    rcases inStep.place with facing | ⟨error, halted, finished, -⟩
    · simp [Machine.isHalted, facing.ready, FlatMachine.isHalted, facing.running]
    · simp [Machine.isHalted, halted, FlatMachine.isHalted, finished]
  progress _ _ inStep going := inStep.progress plain going

/-- A finished machine and a finished flat machine have the same to show: tape and pointer, output,
calls of the line source, error, and the positions executed, which are the steps counted. -/
structure FlatMachine.SameResult (session : Session) (flat : FlatMachine) : Prop where
  tape : session.machine.tape = flat.tape
  output : session.machine.told Event.sunk = flat.output
  reads : (session.machine.told Event.handed).length = flat.reads
  script : session.script = flat.script
  outcome : flat.outcome = some session.machine.error?
  visited : session.machine.told Event.position = flat.visited
  steps : session.machine.steps = flat.visited.length

/-- Finished machines that are in step have the same to show. -/
theorem InStep.sameResult {listing : Bytes} {inputMode : InputMode} {session : Session}
    {flat : FlatMachine} (inStep : InStep listing inputMode session flat)
    (finished : flat.isHalted = true) : FlatMachine.SameResult session flat := by
  rcases inStep.place with facing | ⟨error, halted, ended, empty⟩
  · simp [FlatMachine.isHalted, facing.running] at finished
  · exact {
      tape := inStep.data.tape
      output := by simpa [Machine.emitted, empty] using inStep.data.output
      reads := inStep.data.reads
      script := inStep.script
      outcome := by rw [ended, Machine.error?, halted]
      visited := inStep.data.visited
      steps := inStep.data.steps }

/-- Fresh machines are in step. -/
theorem inStep_start {source : Bytes} {blueprint : Blueprint}
    (compiled : compile source = .ok blueprint.program) (running : blueprint.debugging = false)
    (endless : blueprint.room = none) (calm : blueprint.cancellation = .never)
    (script : List Entry) :
    InStep blueprint.program.listing blueprint.inputMode ⟨blueprint.machine, script⟩
      (.start blueprint.tapeLength.toNat script) where
  shown := by simp [Blueprint.machine]
  taken := rfl
  script := rfl
  data := {
    mode := by simp [Blueprint.machine, running]
    unlimited := ⟨by simp [Blueprint.machine, Writer.fresh, endless], rfl⟩
    tape := rfl
    pending := rfl
    output := rfl
    reads := rfl
    visited := rfl
    steps := rfl }
  place := .inl ⟨rfl, calm, rfl, rfl, Blueprint.machine_standsAt compiled⟩

/-- The machine on the tree of a program without breakpoints is the flat machine over its listing.
A fresh machine that runs on, is not cancelled and has an endless sink ends exactly if the flat
machine does, and then both have the same to show. -/
theorem run_refines_flat {source : Bytes} {blueprint : Blueprint}
    (compiled : compile source = .ok blueprint.program) (plain : ascii '!' ∉ source)
    (running : blueprint.debugging = false) (endless : blueprint.room = none)
    (calm : blueprint.cancellation = .never) (script : List Entry) :
    ((∃ moves, (Session.run moves ⟨blueprint.machine, script⟩).machine.isHalted = true) ↔
      ∃ moves, (FlatMachine.run blueprint.program.listing blueprint.inputMode moves
        (.start blueprint.tapeLength.toNat script)).isHalted = true) ∧
    ∀ moves flatMoves,
      (Session.run moves ⟨blueprint.machine, script⟩).machine.isHalted = true →
      (FlatMachine.run blueprint.program.listing blueprint.inputMode flatMoves
        (.start blueprint.tapeLength.toNat script)).isHalted = true →
      FlatMachine.SameResult (Session.run moves ⟨blueprint.machine, script⟩)
        (FlatMachine.run blueprint.program.listing blueprint.inputMode flatMoves
          (.start blueprint.tapeLength.toNat script)) := by
  have unbroken : Op.breakpoint.symbol ∉ blueprint.program.listing := by
    rw [listing_of_compile compiled]
    exact fun found => plain (List.mem_filter.mp found).1
  have start := inStep_start compiled running endless calm script
  obtain ⟨together, related⟩ := (flat_lockstep blueprint.inputMode unbroken).ends start
  simp only [Session.run_eq_iterate, FlatMachine.run]
  exact ⟨together, fun moves flatMoves ended finished =>
    (related moves flatMoves ended finished).sameResult finished⟩

/-- A loop that puts one byte out and reads one line ends on both machines with the same to show. -/
theorem run_refines_flat_loop :
    let program : Program :=
      ⟨.op 0 .increment
        (.loop 1 (.op 2 .decrement (.op 3 .output .done)) (.op 5 .input .done)), 6, 1⟩
    let blueprint : Blueprint :=
      { Blueprint.ofProgram program with tapeLength := 2, inputMode := .stream }
    let script : List Entry := [.line (utf8 "x")]
    compile (utf8 "+[-.] ,") = .ok program ∧
      FlatMachine.SameResult (Session.run 12 ⟨blueprint.machine, script⟩)
        (FlatMachine.run program.listing .stream 12 (.start 2 script)) := by
  intro program blueprint script
  have compiled : compile (utf8 "+[-.] ,") = .ok blueprint.program := rfl
  refine ⟨compiled, ?_⟩
  exact (run_refines_flat compiled (by decide +kernel) rfl rfl rfl script).2 12 12
    (by decide +kernel) (by decide +kernel)

end TapeMachine
