import TapeMachine.Machine.Basic

/-! What a journal tells, and what has been put out: bytes in the sink and bytes in the buffer. -/

namespace TapeMachine

namespace Machine

/-- What the events so far tell, in the order of time. -/
def told {α : Type} (machine : Machine) (view : Event → List α) : List α :=
  machine.events.flatMap view

/-- Writing an event down adds what it tells. -/
@[simp] theorem told_record {α : Type} (machine : Machine) (event : Event)
    (view : Event → List α) :
    (machine.record event).told view = machine.told view ++ view event := by
  simp [told, events, record]

/-- Events that a view does not tell may be left out. -/
theorem flatMap_filter_of_silent {α : Type} {keep : Event → Bool} {view : Event → List α}
    (silent : ∀ event, keep event = false → view event = []) (events : List Event) :
    (events.filter keep).flatMap view = events.flatMap view := by
  induction events with
  | nil => rfl
  | cons event rest ih =>
    cases kept : keep event with
    | false => simp [kept, silent event kept, ih]
    | true => simp [kept, ih]

/-- The bytes put out so far: those that the sink has taken, and those still in the buffer. -/
def emitted (machine : Machine) : Bytes :=
  machine.told Event.sunk ++ machine.writer.buffer.toList

end Machine

/-- A writer whose sink takes everything. -/
structure Writer.Unlimited (writer : Writer) : Prop where
  /-- The sink has no end. -/
  endless : writer.room = none
  /-- The sink has not failed. -/
  sound : writer.failed = false

namespace Writer

/-- Flushing into an endless sink empties the buffer. -/
theorem Unlimited.flush_eq {writer : Writer} (unlimited : writer.Unlimited) :
    writer.flush = ({ writer with buffer := #[] },
      if writer.buffer.isEmpty then none else some (.accepted writer.buffer.toList)) := by
  -- An empty buffer is left as it is, and any other one is taken as a whole.
  rcases writer with ⟨buffer, room, failed⟩
  obtain ⟨rfl, rfl⟩ : room = none ∧ failed = false := ⟨unlimited.endless, unlimited.sound⟩
  by_cases empty : buffer.isEmpty = true
  · have same : buffer = #[] := by simpa using empty
    simp [flush, same]
  · simp [flush, empty]

/-- An endless sink stays endless when the buffer is flushed. -/
theorem Unlimited.flush {writer : Writer} (unlimited : writer.Unlimited) :
    writer.flush.1.Unlimited := by
  rw [unlimited.flush_eq]
  exact ⟨unlimited.endless, unlimited.sound⟩

/-- An endless sink stays endless when a byte is added. -/
theorem Unlimited.put {writer : Writer} (unlimited : writer.Unlimited) (byte : UInt8) :
    (writer.put byte).1.Unlimited := by
  simp only [Writer.put, unlimited.sound, unlimited.flush_eq, Bool.false_eq_true, if_false]
  -- The byte finds room in the buffer, or in the buffer that has just been emptied.
  split <;> exact ⟨unlimited.endless, rfl⟩

end Writer

namespace Machine

/-- A delivery is told like any other event. -/
theorem told_deliver {α : Type} (machine : Machine) (written : Writer × Option Delivery)
    (view : Event → List α) :
    (machine.deliver written).told view =
      machine.told view ++ written.2.toList.flatMap fun delivery => view (.delivered delivery) := by
  rcases written with ⟨writer, _ | delivery⟩ <;> simp [told, events, deliver]

/-- Flushing writes down nothing but a delivery. -/
theorem told_flush {α : Type} (machine : Machine) {view : Event → List α}
    (silent : ∀ delivery, view (.delivered delivery) = []) :
    machine.flush.told view = machine.told view := by
  rw [flush, told_deliver]
  simp [silent]

/-- Adding a byte writes down nothing but a delivery. -/
theorem told_put {α : Type} (machine : Machine) (byte : UInt8) {view : Event → List α}
    (silent : ∀ delivery, view (.delivered delivery) = []) :
    (machine.put byte).told view = machine.told view := by
  rw [put, told_deliver]
  simp [silent]

/-- Ending a run writes down nothing but a delivery and the last state. -/
theorem told_finish {α : Type} (machine : Machine) (error : Option RunError)
    {view : Event → List α} (silent : ∀ delivery, view (.delivered delivery) = [])
    (last : ∀ pointer cell mode steps pending,
      view (.checkpoint pointer cell mode steps pending) = []) :
    (machine.finish error).told view = machine.told view := by
  rw [finish, told_record, last, List.append_nil]
  exact machine.told_flush silent

/-- Flushing into an endless sink moves the buffer into the sink. -/
theorem told_sunk_flush {machine : Machine} (unlimited : machine.writer.Unlimited) :
    machine.flush.told Event.sunk = machine.emitted := by
  rw [flush, told_deliver, unlimited.flush_eq, emitted]
  -- An empty buffer is not delivered, but it has nothing to bring to the sink either.
  by_cases empty : machine.writer.buffer.isEmpty = true
  · have same : machine.writer.buffer = #[] := by simpa using empty
    simp [same]
  · simp [empty, Event.sunk, Delivery.bytes]

/-- Behind a flush into an endless sink the buffer is empty. -/
theorem buffer_flush {machine : Machine} (unlimited : machine.writer.Unlimited) :
    machine.flush.writer.buffer = #[] := by
  rw [flush, deliver, unlimited.flush_eq]

/-- Flushing puts nothing out that was not put out before. -/
theorem emitted_flush {machine : Machine} (unlimited : machine.writer.Unlimited) :
    machine.flush.emitted = machine.emitted := by
  rw [emitted, told_sunk_flush unlimited, buffer_flush unlimited]
  simp

/-- A byte is put out behind all others. -/
theorem emitted_put {machine : Machine} (unlimited : machine.writer.Unlimited) (byte : UInt8) :
    (machine.put byte).emitted = machine.emitted ++ [byte] := by
  -- Either there is room in the buffer, or the buffer goes to the sink first.
  by_cases room : machine.writer.buffer.size < bufferCapacity
  · have kept : machine.writer.put byte =
        ({ machine.writer with buffer := machine.writer.buffer.push byte }, none) := by
      simp [Writer.put, unlimited.sound, room]
    rw [put, kept, emitted, told_deliver, deliver]
    simp [emitted]
  · have full : machine.writer.buffer.isEmpty = false := by
      simp only [bufferCapacity] at room
      simp only [Array.isEmpty_eq_false_iff, ne_eq]
      intro empty
      simp [empty] at room
    have flushed : machine.writer.put byte =
        ({ machine.writer with buffer := #[byte] },
          some (.accepted machine.writer.buffer.toList)) := by
      simp [Writer.put, unlimited.sound, room, unlimited.flush_eq, full]
    rw [put, flushed, emitted, told_deliver, deliver]
    simp [emitted, Event.sunk, Delivery.bytes]

/-- Events that bring nothing to the sink put nothing out. -/
theorem emitted_record (machine : Machine) {event : Event} (quiet : event.sunk = []) :
    (machine.record event).emitted = machine.emitted := by
  rw [emitted, told_record, quiet]
  simp [emitted, record]

/-- The start of an instruction is told only by a view of starts. -/
theorem told_begin {α : Type} (machine : Machine) (pos : Nat) (opcode : Opcode)
    {view : Event → List α}
    (silent : ∀ steps pointer cell mode, view (.exec pos opcode steps pointer cell mode) = []) :
    (machine.begin pos opcode).told view = machine.told view := by
  simp [told, events, begin, silent]

/-- The start of an instruction puts nothing out. -/
theorem emitted_begin (machine : Machine) (pos : Nat) (opcode : Opcode) :
    (machine.begin pos opcode).emitted = machine.emitted := by
  rw [emitted, machine.told_begin pos opcode fun _ _ _ _ => rfl]
  rfl

/-- Ending a run puts nothing out that was not put out before. -/
theorem emitted_finish {machine : Machine} (unlimited : machine.writer.Unlimited)
    (error : Option RunError) : (machine.finish error).emitted = machine.emitted := by
  rw [finish, emitted_record _ rfl]
  exact emitted_flush unlimited

/-- Asking for a line puts nothing out that was not put out before. -/
theorem emitted_ask {machine : Machine} (unlimited : machine.writer.Unlimited) :
    machine.ask.emitted = machine.emitted := by
  have sound : machine.flush.writer.failed = false := unlimited.flush.sound
  simp only [ask, sound, Bool.false_eq_true, if_false]
  -- The prompt goes to the user and not to the sink.
  split
  · exact (emitted_record machine.flush rfl).trans (emitted_flush unlimited)
  · exact emitted_flush unlimited

/-- What the line source hands out is no output. -/
theorem emitted_recordEntry (machine : Machine) (entry : Entry) :
    (machine.recordEntry entry).emitted = machine.emitted := by
  cases entry <;> exact emitted_record machine rfl

end Machine

end TapeMachine
