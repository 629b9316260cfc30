import TapeMachine.Proofs.Machine.Bare
import TapeMachine.Proofs.Machine.Cancellation
import TapeMachine.Proofs.Machine.FlatRefinement
import TapeMachine.Proofs.Machine.Passage

/-! A run on a longer tape is the same run as long as it fits on the shorter one: the tapes differ
by zeros that nobody gets to, and the output only by what the console tells of the memory. -/

namespace TapeMachine

namespace Tape

variable (tape : Tape) (extra : Nat)

/-- The same tape with more cells behind its last one. -/
def stretch : Tape := { tape with cells := tape.cells ++ Array.replicate extra 0 }

/-- A fresh tape that is longer has zeros behind its last cell. -/
theorem blank_stretch (length : Nat) : blank (length + extra) = (blank length).stretch extra := by
  simp [blank, stretch, Array.replicate_append_replicate]

/-- A cell behind the last one is as good as a zero. -/
@[simp] theorem cell_stretch : (tape.stretch extra).cell = tape.cell := by
  -- On the shorter tape the address is a cell, or both tapes read zero there.
  simp only [cell, stretch, Array.getD_eq_getD_getElem?, Array.getElem?_append]
  split
  · rfl
  · rename_i behind
    have nothing : tape.cells[tape.pointer]? = none := Array.getElem?_eq_none (by omega)
    rw [nothing, Array.getElem?_replicate]
    split <;> rfl

/-- Writing to a cell of the tape leaves the zeros behind it alone. -/
theorem write_stretch {tape : Tape} (inside : tape.pointer < tape.length) (value : UInt8) :
    (tape.stretch extra).write value = (tape.write value).stretch extra := by
  -- A cell of the shorter tape lies in front of all that has been added.
  simp only [write, stretch, Array.setIfInBounds_append, length] at inside ⊢
  rw [if_pos inside]

/-- The pointer moves to the left alike, or is refused alike. -/
theorem moveLeft_stretch :
    (tape.stretch extra).moveLeft = tape.moveLeft.map (stretch · extra) := by
  -- The pointer alone decides, and both tapes have the same.
  unfold moveLeft
  split <;> simp_all [stretch, Except.map]

/-- The pointer moves alike unless the shorter tape ends. -/
theorem moveRight_stretch {tape moved : Tape} (found : tape.moveRight = .ok moved) :
    (tape.stretch extra).moveRight = .ok (moved.stretch extra) := by
  unfold moveRight at found ⊢
  split at found
  · -- What is inside the shorter tape is inside the longer one.
    rename_i room
    cases found
    have longer : (tape.stretch extra).pointer + 1 < (tape.stretch extra).length := by
      simp only [stretch, length, Array.size_append] at room ⊢
      omega
    rw [if_pos longer]
    rfl
  · cases found

end Tape

namespace Machine

/-- The machine with more cells behind the last one. -/
def stretch (machine : Machine) (extra : Nat) : Machine :=
  { machine with tape := machine.tape.stretch extra }

/-- Whether a run ended behind the last cell. -/
def Overflowed (machine : Machine) : Prop :=
  ∃ pos opcode place, machine.error? = some (.pointer pos opcode place .overflow)

/-- Two machines that differ by their output and by zeros behind the tape of the first. -/
structure Alongside (extra : Nat) (short long : Machine) : Prop where
  bare : long.bare = short.bare.stretch extra
  shortSink : short.writer.Unlimited
  longSink : long.writer.Unlimited
  inside : short.tape.pointer < short.tape.length

/-- The first machine has come to the end of its tape; the second one has told all that the first
one has. -/
structure Parted (short long : Machine) : Prop where
  overflowed : short.Overflowed
  told : short.told Event.watched <+: long.told Event.watched

namespace Alongside

variable {extra : Nat} {short long : Machine}

section

variable (along : Alongside extra short long)
include along

/-- What depends neither on the output nor on the tape is the same for both. -/
theorem same {α : Type} (field : Machine → α)
    (bare : ∀ machine, field machine.bare = field machine)
    (stretch : ∀ machine, field (stretch machine extra) = field machine) :
    field long = field short := by
  -- The field of either machine is read off the machine without output.
  rw [← bare long, along.bare, stretch, bare]

/-- The code that is left is the same. -/
theorem code : long.code = short.code :=
  along.same Machine.code (fun _ => rfl) fun _ => rfl

/-- The loops around it are the same. -/
theorem loops : long.loops = short.loops :=
  along.same Machine.loops (fun _ => rfl) fun _ => rfl

/-- Both machines run or both are debugged. -/
theorem mode : long.mode = short.mode :=
  along.same Machine.mode (fun _ => rfl) fun _ => rfl

/-- Both machines wait for the same thing. -/
theorem status : long.status = short.status :=
  along.same Machine.status (fun _ => rfl) fun _ => rfl

/-- Both machines have executed as many instructions. -/
theorem steps : long.steps = short.steps :=
  along.same Machine.steps (fun _ => rfl) fun _ => rfl

/-- The same bytes of the current line are left. -/
theorem pending : long.pending = short.pending :=
  along.same Machine.pending (fun _ => rfl) fun _ => rfl

/-- Both machines take their input in the same way. -/
theorem inputMode : long.inputMode = short.inputMode :=
  along.same Machine.inputMode (fun _ => rfl) fun _ => rfl

/-- Both machines prompt or neither does. -/
theorem prompting : long.prompting = short.prompting :=
  along.same Machine.prompting (fun _ => rfl) fun _ => rfl

/-- Both contexts are cancelled at the same check. -/
theorem cancellation : long.cancellation = short.cancellation :=
  along.same Machine.cancellation (fun _ => rfl) fun _ => rfl

/-- The longer tape is the shorter one with zeros behind it. -/
theorem tape : long.tape = short.tape.stretch extra := congrArg Machine.tape along.bare

/-- Both pointers stand over the same byte. -/
theorem cell : long.tape.cell = short.tape.cell := by rw [along.tape, Tape.cell_stretch]

/-- The pointers have the same address. -/
theorem pointer : long.tape.pointer = short.tape.pointer := by
  rw [along.tape]
  rfl

/-- A view that does not look at deliveries shows the same of both. -/
theorem told {α : Type} {view : Event → List α}
    (silent : ∀ delivery, view (.delivered delivery) = []) : long.told view = short.told view := by
  rw [← told_bare long silent, along.bare, ← told_bare short silent]
  rfl

/-- Both machines may put out whatever they want. -/
theorem printed {shortAfter longAfter : Machine} (shortBare : shortAfter.bare = short.bare)
    (longBare : longAfter.bare = long.bare) (shortKept : Untouched short shortAfter)
    (longKept : Untouched long longAfter) : Alongside extra shortAfter longAfter where
  bare := by rw [longBare, shortBare, along.bare]
  shortSink := shortKept.unlimited along.shortSink
  longSink := longKept.unlimited along.longSink
  inside := by
    rw [shortKept.tape]
    exact along.inside

/-- Each machine may print a text of its own. -/
theorem print (shortText longText : Bytes) :
    Alongside extra (short.print shortText) (long.print longText) :=
  along.printed (bare_print _ _) (bare_print _ _) (untouched_print _ _) (untouched_print _ _)

/-- Both machines may flush what they have put out. -/
theorem flush : Alongside extra short.flush long.flush :=
  along.printed (bare_deliver _ _) (bare_deliver _ _) short.untouched_flush long.untouched_flush

/-- A change that looks at nothing of the output and does not get behind the last cell. -/
theorem changed (change : Machine → Machine)
    (bare : ∀ machine, (change machine).bare = change machine.bare)
    (stretch : change (short.bare.stretch extra) = (change short.bare).stretch extra)
    (writer : ∀ machine, (change machine).writer = machine.writer)
    (inside : (change short).tape.pointer < (change short).tape.length) :
    Alongside extra (change short) (change long) where
  bare := by rw [bare, bare, along.bare, stretch]
  shortSink := by
    rw [writer]
    exact along.shortSink
  longSink := by
    rw [writer]
    exact along.longSink
  inside := inside

/-- Both machines may tell of an event that is no delivery. -/
theorem record {event : Event} (other : event.isDelivery = false) :
    Alongside extra (short.record event) (long.record event) :=
  along.changed (Machine.record · event) (fun machine => machine.bare_record other) rfl
    (fun _ => rfl) along.inside

/-- Both machines may go over to the same status. -/
theorem withStatus (status : Status) :
    Alongside extra { short with status := status } { long with status := status } :=
  along.changed (fun machine => { machine with status := status }) (fun _ => rfl) rfl (fun _ => rfl)
    along.inside

/-- Both machines may go on with the same code. -/
theorem proceed (rest : Code) : Alongside extra (short.proceed rest) (long.proceed rest) :=
  along.changed (Machine.proceed · rest) (fun _ => rfl) rfl (fun _ => rfl) along.inside

/-- Both machines may change their mode. -/
theorem setMode (mode : Mode) : Alongside extra (short.setMode mode) (long.setMode mode) := by
  have switched : Alongside extra { short with mode := mode } { long with mode := mode } :=
    along.changed (fun machine => { machine with mode := mode }) (fun _ => rfl) rfl (fun _ => rfl)
      along.inside
  unfold Machine.setMode
  rw [along.mode]
  split
  -- A mode that is set already is not told of.
  · exact along
  · exact switched.record rfl

/-- Both machines may start the same instruction. -/
theorem begin (pos : Nat) (opcode : Opcode) :
    Alongside extra (short.begin pos opcode) (long.begin pos opcode) := by
  -- The event tells of the pointer and the current cell, which are the same on both tapes.
  refine along.changed (Machine.begin · pos opcode) (fun machine => ?_) ?_ (fun _ => rfl)
    along.inside
  · simp [Machine.begin, Machine.bare, Event.isDelivery, Tape.cell]
  · simp only [Machine.begin, Machine.stretch, Tape.cell_stretch]
    rfl

/-- Both machines may be handed the same entry. -/
theorem recordEntry (entry : Entry) :
    Alongside extra (short.recordEntry entry) (long.recordEntry entry) := by
  cases entry <;> exact along.record rfl

/-- Both machines may be cancelled. -/
theorem cancel : Alongside extra short.cancel long.cancel :=
  along.changed Machine.cancel (fun _ => rfl) rfl (fun _ => rfl) along.inside

/-- Both machines may end their runs with the same error. -/
theorem finish (error : Option RunError) :
    Alongside extra (short.finish error) (long.finish error) := by
  -- The last event tells of a cell, a mode and counts, which are the same on both sides.
  have flushed := along.flush
  rw [finish_of_unlimited along.shortSink, finish_of_unlimited along.longSink, flushed.pointer,
    flushed.cell, flushed.mode, flushed.steps, flushed.pending]
  exact (flushed.withStatus (.halted error)).record rfl

/-- Both machines may stop in the console. -/
theorem stop (pos : Nat) (opcode : Opcode) :
    Alongside extra (short.stop pos opcode) (long.stop pos opcode) := by
  rw [stop_of_unlimited along.shortSink, stop_of_unlimited along.longSink]
  -- The banner may show different memory, so the texts are not compared.
  exact (along.print _ _).flush.withStatus .stopped

/-- Both machines may ask for a line. -/
theorem ask : Alongside extra short.ask long.ask := by
  -- Neither sink fails, so both machines get to ask.
  have flushed := along.flush
  unfold Machine.ask
  simp only [flushed.shortSink.sound, flushed.longSink.sound, Bool.false_eq_true, if_false,
    flushed.prompting]
  split
  · exact (flushed.record rfl).withStatus .asking
  · exact flushed.withStatus .asking

/-- Both machines may put out their current cell. -/
theorem emit (rest : Code) : Alongside extra (short.emit rest) (long.emit rest) := by
  obtain ⟨shortText, shortOutput⟩ := emit_of_unlimited along.shortSink rest
  obtain ⟨longText, longOutput⟩ := emit_of_unlimited along.longSink rest
  rw [shortOutput, longOutput, along.cell]
  exact ((along.print shortText longText).record rfl).proceed rest

/-- Both machines may write the same byte under the pointer. -/
theorem written (value : UInt8) :
    Alongside extra { short with tape := short.tape.write value }
      { long with tape := long.tape.write value } := by
  refine along.changed (fun machine => { machine with tape := machine.tape.write value })
    -- The pointer is on the shorter tape, so the write does not get to the zeros behind it.
    (fun _ => rfl) ?_ (fun _ => rfl) ((Tape.near_write _ _).inside along.inside)
  have written : (short.tape.stretch extra).write value =
      (short.tape.write value).stretch extra := Tape.write_stretch extra along.inside value
  simp only [Machine.stretch, Machine.bare, written]

/-- Both machines may store a byte of input. -/
theorem store (byte : UInt8) (rest : Code) :
    Alongside extra (short.store byte rest) (long.store byte rest) :=
  ((along.written byte).record rfl).proceed rest

/-- Both machines may keep the same bytes for later. -/
theorem withPending (pending : Bytes) :
    Alongside extra { short with pending := pending } { long with pending := pending } :=
  along.changed (fun machine => { machine with pending := pending }) (fun _ => rfl) rfl
    (fun _ => rfl) along.inside

/-- Both machines may move their pointer to the same cell of the shorter tape. -/
theorem moveTo (tape : Tape) (inside : tape.pointer < tape.length) (rest : Code) :
    Alongside extra ({ short with tape := tape }.proceed rest)
      ({ long with tape := tape.stretch extra }.proceed rest) where
  bare := by
    have moved := congrArg (fun machine =>
      ({ machine with tape := tape.stretch extra }.proceed rest : Machine)) along.bare
    exact moved
  shortSink := along.shortSink
  longSink := along.longSink
  inside := inside

/-- The two runs part only where the shorter tape ends. -/
theorem operate (pos : Nat) (action : Op) (rest : Code) :
    Alongside extra (short.operate pos action rest) (long.operate pos action rest) ∨
      Parted (short.operate pos action rest) (long.operate pos action rest) := by
  -- Only a move to the right can tell the tapes apart; the pointer never leaves the shorter one.
  cases action with
  | moveRight =>
    cases found : short.tape.moveRight with
    | ok moved =>
      -- A cell of the shorter tape is a cell of the longer one.
      left
      simp only [Machine.operate, Machine.move, along.tape, found,
        Tape.moveRight_stretch extra found]
      exact along.moveTo moved ((Tape.near_moveRight found).inside along.inside) rest
    | error fault =>
      right
      -- The shorter tape ends here, and the only fault of this move is the overflow.
      have overflow : fault = .overflow := by
        unfold Tape.moveRight at found
        split at found
        · cases found
        · exact (Except.error.inj found).symm
      have stopped : short.operate pos .moveRight rest =
          short.finish (some (.pointer pos (.basic .moveRight) short.tape.pointer .overflow)) := by
        simp only [Machine.operate, Machine.move, found, overflow]
      rw [stopped]
      refine ⟨⟨_, _, _, by rw [error?, status_finish_of_unlimited along.shortSink]⟩, ?_⟩
      -- Up to here both have told the same, and the other machine goes on.
      have before : short.told Event.watched = long.told Event.watched :=
        (along.told fun _ => rfl).symm
      have grown : Grows long (long.operate pos .moveRight rest) :=
        (Outcome.move .refl pos _ _ rest).grows
      rw [told_finish _ _ (fun _ => rfl) fun _ _ _ _ _ => rfl, before]
      exact grown.told_extends _
  | moveLeft =>
    simp only [Machine.operate, Machine.move, along.tape, Tape.moveLeft_stretch]
    cases found : short.tape.moveLeft with
    | ok moved =>
      exact .inl (along.moveTo moved ((Tape.near_moveLeft found).inside along.inside) rest)
    -- There is no cell before the first on either tape.
    | error fault => exact .inl (along.finish _)
  | increment =>
    simp only [Machine.operate, along.cell]
    exact .inl ((along.written _).proceed rest)
  | decrement =>
    simp only [Machine.operate, along.cell]
    exact .inl ((along.written _).proceed rest)
  | output => exact .inl (along.emit rest)
  | input =>
    simp only [Machine.operate, takeInput, along.pending]
    split
    -- The same bytes are pending, so both machines have one or both ask.
    · exact .inl ((along.withPending _).store _ rest)
    · exact .inl along.ask
  | breakpoint => exact .inl (((along.record rfl).setMode .debugging).proceed rest)

/-- The next instruction parts the two machines only at the end of the shorter tape. -/
theorem execute : Alongside extra short.execute long.execute ∨
    Parted short.execute long.execute := by
  unfold Machine.execute
  rw [along.code]
  split
  · exact .inl along
  · rename_i pos action rest _
    exact (along.begin pos (.basic action)).operate pos action rest
  · rename_i pos body rest _
    -- Entering a loop looks at no cell; the test comes with the next move.
    have begun := along.begin pos .loop
    have entered := begun.changed (fun machine : Machine =>
      { machine with code := .done, loops := ⟨body, rest⟩ :: machine.loops, status := .ready })
      (fun _ => rfl) rfl (fun _ => rfl) begun.inside
    exact .inl entered

/-- An input instruction takes the same from an entry on both machines. -/
theorem receiveInput (rest : Code) (entry : Entry) :
    Alongside extra (short.receiveInput rest entry) (long.receiveInput rest entry) := by
  -- Both machines take lines in the same way.
  cases entry with
  | line text =>
    cases mode : short.inputMode with
    | stream =>
      have other : long.inputMode = .stream := along.inputMode.trans mode
      cases text with
      | nil => simpa only [Machine.receiveInput, mode, other] using along.store newline rest
      | cons byte more =>
        have kept := (along.withPending (more ++ [newline])).store byte rest
        simpa only [Machine.receiveInput, mode, other] using kept
    | line =>
      have other : long.inputMode = .line := along.inputMode.trans mode
      cases text with
      | nil => simpa only [Machine.receiveInput, mode, other] using along.ask
      | cons byte more =>
        simpa only [Machine.receiveInput, mode, other] using along.store byte rest
  | ended report =>
    simp only [Machine.receiveInput, along.pointer]
    exact (along.record rfl).proceed rest
  | failed reason => exact along.finish _
  | cancelled => exact along.cancel.finish _

/-- The console may tell each machine something else, but it makes both do the same. -/
theorem command (pos : Nat) (opcode : Opcode) (line : Bytes) :
    Alongside extra (short.command pos opcode line) (long.command pos opcode line) ∨
      Parted (short.command pos opcode line) (long.command pos opcode line) := by
  have answered (request : Command) :
      Alongside extra ((short.answer pos opcode request).stop pos opcode)
        ((long.answer pos opcode request).stop pos opcode) :=
    (along.printed (bare_answer _ _ _ _) (bare_answer _ _ _ _) (untouched_answer _ _ _ request)
      (untouched_answer _ _ _ request)).stop pos opcode
  unfold Machine.command
  split
  -- An empty line only shows the banner again.
  · exact .inl (along.stop pos opcode)
  · cases Command.parse? line with
    | none =>
      -- The complaint about a line is printed without a look at the tape.
      have complained (text : Bytes) :
          Alongside extra (short.printLine text) (long.printLine text) :=
        along.printed (bare_printLine _ _) (bare_printLine _ _) (untouched_printLine _ _)
          (untouched_printLine _ _)
      exact .inl ((complained _).stop pos opcode)
    | some request =>
      cases request with
      -- Only the two requests that leave the console execute anything.
      | next => exact along.execute
      | exit => exact (along.setMode .running).execute
      | code => exact .inl (answered .code)
      | mem => exact .inl (answered .mem)
      | info => exact .inl (answered .info)
      | help => exact .inl (answered .help)

/-- An answer on the console makes both machines do the same. -/
theorem receiveCommand (pos : Nat) (opcode : Opcode) (entry : Entry) :
    Alongside extra (short.receiveCommand pos opcode entry)
        (long.receiveCommand pos opcode entry) ∨
      Parted (short.receiveCommand pos opcode entry) (long.receiveCommand pos opcode entry) := by
  cases entry with
  -- At the end of its input the console lets the run go on; an error ends it.
  | line text => exact along.command pos opcode text
  | ended report => exact ((along.record rfl).setMode .running).execute
  | failed reason => exact .inl (along.finish _)
  | cancelled => exact .inl (along.cancel.finish _)

/-- An entry that arrives makes both machines do the same. -/
theorem receive (entry : Entry) :
    Alongside extra (short.receive entry) (long.receive entry) ∨
      Parted (short.receive entry) (long.receive entry) := by
  have noted := along.recordEntry entry
  -- Status and code are the same, so the same instruction hears the entry.
  unfold Machine.receive
  simp only [along.status, along.code]
  split
  · exact noted.receiveCommand _ _ entry
  · exact noted.receiveCommand _ _ entry
  · exact .inl (noted.receiveInput _ entry)
  · exact .inl noted

/-- A loop is tested alike. -/
theorem test (innermost : ActiveLoop) (outer : List ActiveLoop) :
    Alongside extra (short.test innermost outer) (long.test innermost outer) := by
  have checked := along.changed (fun machine : Machine =>
    { machine with cancellation := machine.cancellation.check }) (fun _ => rfl) rfl (fun _ => rfl)
    along.inside
  have alike : long.cancellation.check.cancelled = short.cancellation.check.cancelled := by
    rw [along.cancellation]
  by_cases zero : short.tape.cell = 0
  -- The cell under the pointer is the same, so both machines leave the loop or both stay in it.
  · simp only [Machine.test, along.cell, zero, if_true]
    exact along.changed (fun machine : Machine =>
      { machine with code := innermost.rest, loops := outer }) (fun _ => rfl) rfl (fun _ => rfl)
      along.inside
  · simp only [Machine.test, along.cell, zero, if_false, alike]
    split
    -- The context is looked at only in front of another pass.
    · exact checked.finish _
    · exact checked.changed (fun machine : Machine => { machine with code := innermost.body })
        (fun _ => rfl) rfl (fun _ => rfl) along.inside

/-- A move parts the two machines only at the end of the shorter tape. -/
theorem advance : Alongside extra short.advance long.advance ∨
    Parted short.advance long.advance := by
  -- Code, loops and mode decide what to do, and they are the same.
  unfold Machine.advance
  simp only [along.code, along.loops, along.mode]
  split
  · split
    · exact .inl (along.finish none)
    · exact .inl (along.test _ _)
  · split
    · exact .inl (along.stop _ _)
    · exact along.execute
  · split
    · exact .inl (along.stop _ _)
    · exact along.execute

end

end Alongside

/-- A run that has come to the end of its tape is over, while the other one may go on. -/
theorem Parted.later {short long after : Machine} (parted : Parted short long)
    (grows : Grows long after) : Parted short after :=
  ⟨parted.overflowed, parted.told.trans (grows.told_extends _)⟩

/-- A run that has come to the end of its tape is over. -/
theorem Overflowed.isHalted {machine : Machine} (overflowed : machine.Overflowed) :
    machine.isHalted = true := by
  obtain ⟨pos, opcode, place, error⟩ := overflowed
  unfold error? at error
  split at error
  · rename_i status
    simp [Machine.isHalted, status]
  · cases error

end Machine

namespace Session

open Machine (Alongside Parted)

variable {extra : Nat} {short long : Session}

/-- One move on both tapes. -/
theorem alongside_step (along : Alongside extra short.machine long.machine)
    (script : long.script = short.script) :
    (Alongside extra short.step.machine long.step.machine ∨
        Parted short.step.machine long.step.machine) ∧
      long.step.script = short.step.script := by
  have handed : (Alongside extra short.handOver.machine long.handOver.machine ∨
      Parted short.handOver.machine long.handOver.machine) ∧
        long.handOver.script = short.handOver.script := by
    simp only [handOver_eq, script]
    exact ⟨along.receive _, trivial⟩
  unfold step
  rw [along.status]
  split
  -- The status says who makes the move, and it is the same on both sides.
  · exact ⟨along.advance, script⟩
  · exact handed
  · exact handed
  · exact ⟨.inl along, script⟩

/-- The whole run on both tapes. -/
theorem alongside_iterate (along : Alongside extra short.machine long.machine)
    (script : long.script = short.script) (moves : Nat) :
    (Alongside extra (step^[moves] short).machine (step^[moves] long).machine ∧
        (step^[moves] long).script = (step^[moves] short).script) ∨
      Parted (step^[moves] short).machine (step^[moves] long).machine := by
  -- Runs that have parted stay so: the shorter one is over, and the other one only tells more.
  induction moves with
  | zero => exact .inl ⟨along, script⟩
  | succ moves ih =>
    simp only [Function.iterate_succ_apply']
    rcases ih with ⟨still, same⟩ | parted
    · obtain ⟨next, left⟩ := alongside_step still same
      exact next.imp_left fun together => ⟨together, left⟩
    · rw [step_of_halted parted.overflowed.isHalted]
      exact .inr (parted.later (grows_step _))

end Session

/-- A fresh tape that is longer is a fresh tape with zeros behind it. -/
theorem Blueprint.alongside (blueprint : Blueprint) (endless : blueprint.room = none)
    (positive : 1 ≤ blueprint.tapeLength) {length : Int} (longer : blueprint.tapeLength ≤ length) :
    Machine.Alongside (length - blueprint.tapeLength).toNat blueprint.machine
      { blueprint with tapeLength := length }.machine := by
  have stretched : Tape.blank length.toNat =
      (Tape.blank blueprint.tapeLength.toNat).stretch (length - blueprint.tapeLength).toNat := by
    rw [← Tape.blank_stretch]
    congr 1
    omega
  -- Before the first move both tapes are blank, and the rest is taken from the same blueprint.
  refine ⟨?_, ⟨endless, rfl⟩, ⟨endless, rfl⟩, Tape.blank_inside (by omega)⟩
  simp only [machine, Machine.bare, Machine.stretch, stretched]

/-- A longer tape never changes a run that fits. As long as the shorter tape has not come to its
end, the two runs on an endless sink agree after every number of moves, and the longer tape is the
shorter one with zeros behind it; once it has, the other run tells all that this one has told. -/
theorem longer_tape_same_run (blueprint : Blueprint) (endless : blueprint.room = none)
    (positive : 1 ≤ blueprint.tapeLength) {length : Int} (longer : blueprint.tapeLength ≤ length)
    (script : List Entry) (moves : Nat) :
    let short := Session.run moves ⟨blueprint.machine, script⟩
    let long moves := Session.run moves ⟨{ blueprint with tapeLength := length }.machine, script⟩
    (¬ short.machine.Overflowed →
      (long moves).machine.status = short.machine.status ∧
      (long moves).machine.told Event.watched = short.machine.told Event.watched ∧
      (long moves).machine.told Event.handed = short.machine.told Event.handed ∧
      (long moves).script = short.script ∧
      (long moves).machine.mode = short.machine.mode ∧
      (long moves).machine.steps = short.machine.steps ∧
      (long moves).machine.tape.pointer = short.machine.tape.pointer ∧
      (long moves).machine.tape.cells = short.machine.tape.cells ++
        Array.replicate (length - blueprint.tapeLength).toNat 0) ∧
    (short.machine.Overflowed → ∀ later, moves ≤ later →
      short.machine.told Event.watched <+: (long later).machine.told Event.watched) := by
  intro short long
  let start : Session := ⟨blueprint.machine, script⟩
  let other : Session := ⟨{ blueprint with tapeLength := length }.machine, script⟩
  have short_eq : short = Session.step^[moves] start := Session.run_eq_iterate moves start
  have long_eq (moves : Nat) : long moves = Session.step^[moves] other :=
    Session.run_eq_iterate moves other
  have along : Machine.Alongside _ start.machine other.machine :=
    blueprint.alongside endless positive longer
  have together := Session.alongside_iterate along rfl moves
  rw [← short_eq, ← long_eq] at together
  constructor
  -- As long as the shorter tape has not ended, the two runs are still alongside.
  · intro fits
    obtain ⟨same, left⟩ := together.resolve_right fun parted => fits parted.overflowed
    refine ⟨same.status, same.told fun _ => rfl, same.told fun _ => rfl, left, same.mode,
      same.steps, same.pointer, ?_⟩
    rw [same.tape]
    rfl
  · intro overflowed later le
    -- Behind its end the other run has told what this one had told, and forgets nothing.
    have grown := other.grows_of_le le
    rw [← long_eq, ← long_eq] at grown
    have told : short.machine.told Event.watched <+: (long moves).machine.told Event.watched := by
      rcases together with ⟨same, -⟩ | parted
      · have equal : (long moves).machine.told Event.watched = short.machine.told Event.watched :=
          same.told fun _ => rfl
        exact equal ▸ List.prefix_refl _
      · exact parted.told
    exact told.trans (grown.told_extends _)

/-- A program that needs two cells is content with them, and ends early on a single one. -/
theorem longer_tape_same_run_two :
    let program : Program := ⟨.op 0 .moveRight (.op 1 .increment .done), 2, 0⟩
    let run length moves := Session.run moves
      ⟨{ Blueprint.ofProgram program with tapeLength := length }.machine, []⟩
    ((run 2 3).machine.status = .halted none ∧
      (run 3 3).machine.status = (run 2 3).machine.status ∧
      (run 3 3).machine.tape.cells = (run 2 3).machine.tape.cells ++ Array.replicate 1 0) ∧
    (run 1 1).machine.Overflowed ∧
      (run 1 1).machine.told Event.watched <+: (run 2 3).machine.told Event.watched := by
  intro program run
  have ended : (run 2 3).machine.status = .halted none := by decide +kernel
  have fits : ¬ (run 2 3).machine.Overflowed := by
    rintro ⟨pos, opcode, place, error⟩
    -- A run that has ended well has not met the end of its tape.
    simp [Machine.error?, ended] at error
  have overflowed : (run 1 1).machine.Overflowed := ⟨0, .basic .moveRight, 0, by decide +kernel⟩
  have two := longer_tape_same_run { Blueprint.ofProgram program with tapeLength := 2 } rfl
    (by decide) (by decide : (2 : Int) ≤ 3) [] 3
  have one := longer_tape_same_run { Blueprint.ofProgram program with tapeLength := 1 } rfl
    (by decide) (by decide : (1 : Int) ≤ 2) [] 1
  obtain ⟨status, -, -, -, -, -, -, cells⟩ := two.1 fits
  exact ⟨⟨ended, status, cells⟩, overflowed, one.2 overflowed 3 (by decide)⟩

end TapeMachine
