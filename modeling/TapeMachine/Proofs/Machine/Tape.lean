import TapeMachine.Machine.Tape
import Mathlib.Data.List.TakeDrop

/-! What a tape shows of what has been written to it, and its windows. -/

namespace TapeMachine

namespace Tape

/-- The last byte that is written stays. -/
theorem write_write (tape : Tape) (value other : UInt8) :
    (tape.write value).write other = tape.write other := by
  simp [write]

/-- What is written inside the tape can be read back. -/
theorem cell_write {tape : Tape} (inside : tape.pointer < tape.length) (value : UInt8) :
    (tape.write value).cell = value := by
  simp only [length] at inside
  simp [write, cell, inside]

/-- Writing what is there already changes nothing. -/
theorem write_cell (tape : Tape) : tape.write tape.cell = tape := by
  cases tape with
  | mk cells pointer =>
    simp only [write, cell, mk.injEq, and_true]
    by_cases inside : pointer < cells.size <;> simp [Array.setIfInBounds, inside]

/-- A blank tape shows a zero. -/
theorem cell_blank (length : Nat) : (blank length).cell = 0 := by
  simp only [blank, cell, Array.getD_eq_getD_getElem?, Array.getElem?_replicate]
  split <;> rfl

/-- A window ends where it should, or at the end of the tape. -/
theorem length_window (tape : Tape) (start size : Nat) :
    (tape.window start size).length = min size (tape.length - start) := by
  simp only [window, Array.length_toList, Array.size_extract, length]
  omega

/-- The cells of a window are those of the tape from its start on. -/
theorem getElem?_window {tape : Tape} {start size index : Nat}
    (inside : index < (tape.window start size).length) :
    (tape.window start size)[index]? = tape.cells[start + index]? := by
  rw [length_window, length] at inside
  -- An index inside the window is before both of its possible ends.
  rw [window, Array.getElem?_toList, Array.getElem?_extract, if_pos (by omega)]

/-- A window and the one behind it are one longer window. -/
theorem window_append (tape : Tape) (start first second : Nat) :
    tape.window start (first + second) =
      tape.window start first ++ tape.window (start + first) second := by
  simp only [window, Array.toList_extract, List.extract_eq_take_drop, Nat.add_sub_cancel_left]
  rw [List.take_add, List.drop_drop]

/-- Behind the end of the tape there is no cell. -/
theorem window_of_outside {tape : Tape} {start : Nat} (outside : tape.length ≤ start)
    (size : Nat) : tape.window start size = [] := by
  rw [← List.length_eq_zero_iff, length_window]
  omega

end Tape

end TapeMachine
