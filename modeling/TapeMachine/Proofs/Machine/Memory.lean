import TapeMachine.Proofs.Machine.Safety
import TapeMachine.Proofs.Machine.Tape

/-! Reads of the tape: a window between its start and the end of the tape, as long as the end of the
window fits in a signed 64-bit word. -/

namespace TapeMachine

/-- The first number that is too large for a signed 64-bit word. -/
def wordEnd : Int := 0x8000000000000000

/-- A number that fits in a word is not changed by it. -/
theorem wrap64_of_fits {n : Int} (low : -wordEnd ≤ n) (high : n < wordEnd) : wrap64 n = n := by
  -- The bounds of a word are the halves of its modulus.
  refine Int.bmod_eq_of_le ?_ ?_
  · exact low
  · exact high

/-- A sum of two words that does not fit comes out negative. -/
theorem wrap64_of_over {n : Int} (low : wordEnd ≤ n) (high : n < 2 * wordEnd) :
    wrap64 n = n - 2 * wordEnd := by
  -- Taking the modulus away once is enough for two words.
  have shifted : wrap64 n = wrap64 (n - 2 * wordEnd) := by
    show n.bmod 0x10000000000000000 = (n - 2 * wordEnd).bmod 0x10000000000000000
    rw [show 2 * wordEnd = ((0x10000000000000000 : Nat) : Int) by rfl, Int.sub_bmod_right]
  rw [shifted]
  refine wrap64_of_fits ?_ ?_
  · omega
  · omega

namespace Tape

variable {tape : Tape} {address size : Int}

/-- Nothing is read exactly from outside the tape or for no cell. -/
theorem read_eq_none_iff :
    tape.read address size = .ok none ↔ address < 0 ∨ (tape.length : Int) ≤ address ∨ size ≤ 0 := by
  unfold read
  split
  · rename_i nothing
    simp [nothing]
  · rename_i something
    -- A window is either copied or refused, and both are something.
    dsimp only
    split <;> simp [something]

/-- A window whose end fits in a word is cut at the end of the tape. -/
theorem read_of_fits (short : (tape.length : Int) < wordEnd) (low : 0 ≤ address)
    (inside : address < tape.length) (positive : 0 < size) (fits : address + size < wordEnd) :
    tape.read address size =
      .ok (some (tape.window address.toNat (min size (tape.length - address)).toNat)) := by
  have something : ¬ (address < 0 ∨ (tape.length : Int) ≤ address ∨ size ≤ 0) := by omega
  have stop : wrap64 (address + size) = address + size := by
    refine wrap64_of_fits ?_ fits
    omega
  -- Cutting the end of the window is cutting its size.
  have cut : min (address + size) tape.length - address = min size (tape.length - address) := by
    omega
  have count : wrap64 (min size (tape.length - address)) = min size (tape.length - address) := by
    refine wrap64_of_fits ?_ ?_
    · omega
    · omega
  have countable : ¬ (min size (tape.length - address) < 0 ∨
      (tape.length : Int) < min size (tape.length - address)) := by omega
  unfold read
  simp only [if_neg something, stop, cut, count, if_neg countable]

/-- A window whose end does not fit in a word is refused: its end wraps around to before the tape,
and its size wraps around to more than any tape has. -/
theorem read_of_over (short : 2 * (tape.length : Int) < wordEnd) (low : 0 ≤ address)
    (inside : address < tape.length) (word : size < wordEnd) (beyond : wordEnd ≤ address + size) :
    tape.read address size = .error .unaddressable := by
  have something : ¬ (address < 0 ∨ (tape.length : Int) ≤ address ∨ size ≤ 0) := by omega
  have stop : wrap64 (address + size) = address + size - 2 * wordEnd := by
    refine wrap64_of_over beyond ?_
    omega
  have first : min (address + size - 2 * wordEnd) tape.length = address + size - 2 * wordEnd := by
    omega
  -- The distance from the start to the wrapped end wraps around once more, to the size itself.
  have count : wrap64 (address + size - 2 * wordEnd - address) = size := by
    rw [show address + size - 2 * wordEnd - address = size - 2 * wordEnd by omega]
    show (size - 2 * wordEnd).bmod 0x10000000000000000 = size
    rw [show 2 * wordEnd = ((0x10000000000000000 : Nat) : Int) by rfl, Int.sub_bmod_right]
    refine wrap64_of_fits ?_ word
    omega
  have uncountable : size < 0 ∨ (tape.length : Int) < size := by omega
  unfold read
  simp only [if_neg something, stop, first, count, if_pos uncountable]

end Tape

/-- A machine that can be built has a tape that fits in a memory, and keeps it. -/
theorem Session.Reaches.length_le {blueprint : Blueprint} {machine : Machine}
    (built : blueprint.build = .ok machine) {script : List Entry} {session : Session}
    (reached : Session.Reaches ⟨machine, script⟩ session) :
    0 < session.machine.tape.length ∧
      (session.machine.tape.length : Int) ≤ Blueprint.memoryLimit := by
  unfold Blueprint.build at built
  split at built
  · cases built
  · rename_i positive
    split at built
    · cases built
    · rename_i limited
      split at built
      · cases built
      · -- The tape of the first machine has the length that was asked for, and no move changes it.
        cases built
        obtain ⟨-, length⟩ := reached.tape (by omega)
        rw [length]
        omega

/-- A read of the tape is exact as long as the end of its window fits in a word. Whatever a machine
comes to, and whatever words the address and the size are: nothing is read exactly from outside the
tape or for no cell; the window is refused exactly if its end does not fit in a word; in any other
case just the cells from the address on are read, as many as asked for or up to the end of the tape;
and a window and the one behind it are read like both at once. -/
theorem memory_read_exact {blueprint : Blueprint} {machine : Machine}
    (built : blueprint.build = .ok machine) {script : List Entry} {session : Session}
    (reached : Session.Reaches ⟨machine, script⟩ session) :
    let tape := session.machine.tape
    (∀ address size : Int64,
      (tape.read address.toInt size.toInt = .ok none ↔
        address < 0 ∨ (tape.length : Int) ≤ address.toInt ∨ size ≤ 0) ∧
      (tape.read address.toInt size.toInt = .error .unaddressable ↔
        0 ≤ address ∧ address.toInt < tape.length ∧ 0 < size ∧
          wordEnd ≤ address.toInt + size.toInt) ∧
      (0 ≤ address → address.toInt < tape.length → 0 < size →
        address.toInt + size.toInt < wordEnd →
        ∃ cells, tape.read address.toInt size.toInt = .ok (some cells) ∧
          (cells.length : Int) = min size.toInt (tape.length - address.toInt) ∧
          ∀ index < cells.length, cells[index]? = tape.cells[address.toInt.toNat + index]?)) ∧
    ∀ address first second : Int64, 0 ≤ address → address.toInt < tape.length → 0 < first →
      0 < second → first.toInt ≤ tape.length - address.toInt →
      address.toInt + first.toInt + second.toInt < wordEnd →
      ∃ front back, tape.read address.toInt first.toInt = .ok (some front) ∧
        tape.read (address + first).toInt second.toInt = .ok back ∧
        tape.read address.toInt (first + second).toInt = .ok (some (front ++ back.getD [])) := by
  intro tape
  obtain ⟨nonempty, limited⟩ : 0 < tape.length ∧ (tape.length : Int) ≤ Blueprint.memoryLimit :=
    reached.length_le built
  have limit : Blueprint.memoryLimit = 0x1000000000000 := rfl
  have ending : wordEnd = 0x8000000000000000 := rfl
  have short : 2 * (tape.length : Int) < wordEnd := by omega
  have word (n : Int64) : -wordEnd ≤ n.toInt ∧ n.toInt < wordEnd := ⟨n.le_toInt, n.toInt_lt⟩
  have sum {m n : Int64} (low : 0 ≤ m.toInt + n.toInt) (high : m.toInt + n.toInt < wordEnd) :
      (m + n).toInt = m.toInt + n.toInt := by
    rw [Int64.toInt_add]
    refine wrap64_of_fits ?_ high
    omega
  simp only [Int64.lt_iff_toInt_lt, Int64.le_iff_toInt_le, Int64.toInt_zero]
  refine ⟨fun address size => ⟨Tape.read_eq_none_iff, ⟨fun refused => ?_, ?_⟩, ?_⟩, ?_⟩
  · -- A window that is refused can neither be read nor lie outside.
    have something : ¬ (address.toInt < 0 ∨ (tape.length : Int) ≤ address.toInt ∨
        size.toInt ≤ 0) := by
      intro nothing
      rw [Tape.read_eq_none_iff.mpr nothing] at refused
      cases refused
    refine ⟨by omega, by omega, by omega, ?_⟩
    by_contra fits
    rw [Tape.read_of_fits (by omega) (by omega) (by omega) (by omega) (by omega)] at refused
    cases refused
  · rintro ⟨low, inside, positive, beyond⟩
    exact Tape.read_of_over short low inside (word size).2 beyond
  · intro low inside positive fits
    refine ⟨_, Tape.read_of_fits (by omega) low inside positive fits, ?_, ?_⟩
    · rw [Tape.length_window]
      omega
    · intro index within
      exact Tape.getElem?_window within
  · intro address first second low inside positive more room fits
    have next : (address + first).toInt = address.toInt + first.toInt := sum (by omega) (by omega)
    have both : (first + second).toInt = first.toInt + second.toInt := sum (by omega) (by omega)
    rw [next, both, Tape.read_of_fits (by omega) low inside positive (by omega),
      Tape.read_of_fits (by omega) low inside (by omega) (by omega),
      show min first.toInt (tape.length - address.toInt) = first.toInt by omega]
    -- The first window takes all it is asked for, so the second one begins where it ends.
    have whole : (min (first.toInt + second.toInt) (tape.length - address.toInt)).toNat =
        first.toInt.toNat +
          (min second.toInt (tape.length - (address.toInt + first.toInt))).toNat := by omega
    have start : address.toInt.toNat + first.toInt.toNat =
        (address.toInt + first.toInt).toNat := by omega
    rw [whole, Tape.window_append, start]
    by_cases behind : (tape.length : Int) ≤ address.toInt + first.toInt
    · -- Nothing is left for the second window.
      have nothing (size : Nat) : tape.window (address.toInt + first.toInt).toNat size = [] :=
        Tape.window_of_outside (by omega) size
      refine ⟨_, none, rfl, Tape.read_eq_none_iff.mpr (.inr (.inl behind)), ?_⟩
      rw [nothing]
      rfl
    · refine ⟨_, some _, rfl, Tape.read_of_fits (by omega) (by omega) (by omega) more
        (by omega), rfl⟩

/-- Behind the first of two cells, as many cells as fit between there and the end of a word are cut
at the end of the tape; and the tape is read cell after cell like both cells at once. -/
theorem memory_read_exact_two :
    let blueprint : Blueprint := { Blueprint.ofProgram .empty with tapeLength := 2 }
    let tape := blueprint.machine.tape
    blueprint.build = .ok blueprint.machine ∧
      (∃ cells, tape.read (1 : Int64).toInt (Int64.maxValue - 1).toInt = .ok (some cells) ∧
        cells.length = 1) ∧
      ∃ front back, tape.read (0 : Int64).toInt (1 : Int64).toInt = .ok (some front) ∧
        tape.read ((0 : Int64) + 1).toInt (5 : Int64).toInt = .ok back ∧
        tape.read (0 : Int64).toInt ((1 : Int64) + 5).toInt =
          .ok (some (front ++ back.getD [])) := by
  intro blueprint tape
  have built : blueprint.build = .ok blueprint.machine := rfl
  obtain ⟨single, adjacent⟩ := @memory_read_exact _ _ built [] _ .refl
  obtain ⟨cells, read, length, -⟩ := (single 1 (Int64.maxValue - 1)).2.2 (by decide) (by decide)
    (by decide) (by decide)
  refine ⟨built, ⟨cells, read, ?_⟩, ?_⟩
  · have one : min (Int64.maxValue - 1).toInt (2 - (1 : Int64).toInt) = 1 := by decide
    exact Int.ofNat.inj (length.trans one)
  · exact adjacent 0 1 5 (by decide) (by decide) (by decide) (by decide) (by decide) (by decide)

/-- The largest number of cells that can be asked for cannot be read from the second of two cells:
the end of the window does not fit in a word, and the one cell that is there is not handed out. -/
theorem memory_read_refused :
    let blueprint : Blueprint := { Blueprint.ofProgram .empty with tapeLength := 2 }
    blueprint.build = .ok blueprint.machine ∧
      blueprint.machine.tape.read (1 : Int64).toInt Int64.maxValue.toInt =
        .error .unaddressable ∧
      blueprint.machine.tape.read (1 : Int64).toInt (1 : Int64).toInt = .ok (some [0]) := by
  intro blueprint
  exact ⟨rfl, Tape.read_of_over (by decide) (by decide) (by decide) (by decide) (by decide), rfl⟩

end TapeMachine
