import TapeMachine.Proofs.Machine.Output

/-! Machines without their output: printing and flushing makes no difference to them. -/

namespace TapeMachine

/-- Whether an event is a delivery to the sink. -/
def Event.isDelivery : Event → Bool
  | delivered _ => true
  | _ => false

namespace Machine

/-- The machine without its output: nothing in its buffer, and no deliveries in its journal. -/
def bare (machine : Machine) : Machine :=
  { machine with
    writer := .fresh none
    journal := machine.journal.filter fun event => !event.isDelivery }

/-- A view that does not tell of deliveries tells the same without them. -/
theorem told_bare {α : Type} (machine : Machine) {view : Event → List α}
    (silent : ∀ delivery, view (.delivered delivery) = []) :
    machine.bare.told view = machine.told view := by
  -- The view is silent about just the events that are left out.
  have unseen (event : Event) (delivered : (!event.isDelivery) = false) : view event = [] := by
    cases event <;> first | exact silent _ | cases delivered
  rw [told, told, events, events, bare, ← List.filter_reverse, flatMap_filter_of_silent unseen]

/-- A delivery makes no difference without the output. -/
theorem bare_deliver (machine : Machine) (written : Writer × Option Delivery) :
    (machine.deliver written).bare = machine.bare := by
  rcases written with ⟨writer, _ | delivery⟩ <;> simp [deliver, bare, Event.isDelivery]

/-- Bytes that are printed make no difference without the output. -/
theorem bare_print (bytes : Bytes) :
    ∀ machine : Machine, (machine.print bytes).bare = machine.bare := by
  induction bytes with
  -- A byte that does not fit into the buffer makes one delivery.
  | nil => exact fun _ => rfl
  | cons byte rest ih => exact fun machine => (ih _).trans (machine.bare_deliver _)

/-- A line that is printed makes no difference without the output. -/
theorem bare_printLine (machine : Machine) (bytes : Bytes) :
    (machine.printLine bytes).bare = machine.bare :=
  (bare_deliver _ _).trans (bare_print bytes machine)

/-- Lines that are printed make no difference without the output. -/
theorem bare_printLines (lines : List Bytes) :
    ∀ machine : Machine, (machine.printLines lines).bare = machine.bare := by
  induction lines with
  | nil => exact fun _ => rfl
  | cons line rest ih => exact fun machine => (ih _).trans (machine.bare_printLine line)

/-- A reply of the console makes no difference without the output. -/
theorem bare_answer (machine : Machine) (pos : Nat) (opcode : Opcode) (request : Command) :
    (machine.answer pos opcode request).bare = machine.bare := by
  cases request with
  -- Every reply is printed.
  | code => exact bare_printLines _ machine
  | mem => exact bare_printLines _ machine
  | info => exact bare_printLine machine _
  | help => exact bare_printLine machine _
  | next => rfl
  | exit => rfl

/-- Every event but a delivery is written down without the output, too. -/
theorem bare_record (machine : Machine) {event : Event} (other : event.isDelivery = false) :
    (machine.record event).bare = machine.bare.record event := by
  simp [record, bare, other]

end Machine

end TapeMachine
