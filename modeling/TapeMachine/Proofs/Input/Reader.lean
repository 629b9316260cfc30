import TapeMachine.Input.Reader
import Mathlib.Data.List.TakeWhile

/-! The reader in single steps: each takes one piece of the stream into the queue or closes the
queue, and the pieces are the lines of the stream. -/

namespace TapeMachine

/-- A stream holds a line feed behind its first line, or is one unfinished line. -/
theorem stream_cases (stream : Bytes) :
    (∃ line rest, newline ∉ line ∧ stream = line ++ newline :: rest) ∨ newline ∉ stream := by
  by_cases broken : newline ∈ stream
  · obtain ⟨line, rest, split, unbroken⟩ := List.eq_append_cons_of_mem broken
    exact .inl ⟨line, rest, unbroken, split⟩
  · exact .inr broken

/-- A line feed ends the current piece, and the next one begins behind it. -/
theorem piecesFrom_append_newline {line : Bytes} (unbroken : newline ∉ line) (rest : Bytes) :
    ∀ current, piecesFrom current (line ++ newline :: rest) =
      (current.reverse ++ line ++ [newline]) :: piecesFrom [] rest := by
  -- Bytes that are no line feeds only join the current piece.
  induction line with
  | nil => intro current; simp [piecesFrom]
  | cons b line ih =>
    intro current
    obtain ⟨other, behind⟩ : newline ≠ b ∧ newline ∉ line := by simpa using unbroken
    simp [piecesFrom, Ne.symm other, ih behind]

/-- Without a line feed there is one piece, if there is a byte. -/
theorem piecesFrom_of_unbroken {piece : Bytes} (unbroken : newline ∉ piece) :
    ∀ current, piecesFrom current piece =
      if current.reverse ++ piece = [] then [] else [current.reverse ++ piece] := by
  -- All bytes join the current piece, which is kept at the end unless it is empty.
  induction piece with
  | nil => intro current; simp [piecesFrom]
  | cons b piece ih =>
    intro current
    obtain ⟨other, behind⟩ : newline ≠ b ∧ newline ∉ piece := by simpa using unbroken
    simp [piecesFrom, Ne.symm other, ih behind]

/-- A stream without bytes has no lines. -/
@[simp] theorem lines_nil : lines [] = [] := rfl

/-- The first line ends with the first line feed. -/
theorem lines_append_newline {line : Bytes} (unbroken : newline ∉ line) (rest : Bytes) :
    lines (line ++ newline :: rest) = trimLineEnd (line ++ [newline]) :: lines rest := by
  simp [lines, piecesFrom_append_newline unbroken]

/-- The bytes behind the last line feed are a line if there are any. -/
theorem lines_of_unbroken {piece : Bytes} (unbroken : newline ∉ piece) (some : piece ≠ []) :
    lines piece = [trimLineEnd piece] := by
  simp [lines, piecesFrom_of_unbroken unbroken, some]

/-- The bytes in front of the first line feed. -/
theorem takeWhile_append_newline {line : Bytes} (unbroken : newline ∉ line) (rest : Bytes) :
    (line ++ newline :: rest).takeWhile (· ≠ newline) = line := by
  rw [List.takeWhile_append_of_pos]
  · simp
  · intro b member
    simp only [decide_eq_true_eq]
    rintro rfl
    exact unbroken member

/-- Without a line feed all bytes are in front of it. -/
theorem takeWhile_of_unbroken {piece : Bytes} (unbroken : newline ∉ piece) :
    piece.takeWhile (· ≠ newline) = piece := by
  refine List.takeWhile_eq_self_iff.mpr fun b member => ?_
  simp only [decide_eq_true_eq]
  rintro rfl
  exact unbroken member

namespace Reader

/-- Whether the reader has been started and has not exited. -/
def isReading (reader : Reader) : Bool := reader.started && !reader.exited

/-- The piece that the reader reads next, and what it leaves: the bytes up to the first line feed,
or all bytes if the stream has ended behind them. -/
def nextPiece? (reader : Reader) : Option (Bytes × Bytes) :=
  let line := reader.unread.takeWhile (· ≠ newline)
  match reader.unread.drop line.length with
  | b :: rest => some (line ++ [b], rest)
  | [] =>
    if reader.ending.isSome && !reader.unread.isEmpty then some (reader.unread, []) else none

/-- Puts a piece into the queue as a line. -/
def pushPiece (reader : Reader) (piece rest : Bytes) : Reader :=
  { reader with queue := reader.queue.push (trimLineEnd piece), unread := rest }

/-- Closes the queue behind the last piece and exits. -/
def closeAtEnd (reader : Reader) (reason : CloseReason) : Reader :=
  { reader with queue := reader.queue.close reason, exited := true }

/-- A full line is the next piece. -/
theorem nextPiece?_of_line {reader : Reader} {line rest : Bytes} (unbroken : newline ∉ line)
    (arrived : reader.unread = line ++ newline :: rest) :
    reader.nextPiece? = some (line ++ [newline], rest) := by
  simp only [nextPiece?, arrived, takeWhile_append_newline unbroken, List.drop_left]

/-- An unfinished line is the next piece once the stream has ended. -/
theorem nextPiece?_of_unbroken {reader : Reader} (unbroken : newline ∉ reader.unread) :
    reader.nextPiece? =
      if reader.ending.isSome && !reader.unread.isEmpty then some (reader.unread, [])
      else none := by
  simp only [nextPiece?, takeWhile_of_unbroken unbroken, List.drop_length]

/-- The next piece is the first line of what is left, whatever may still arrive behind it. -/
theorem lines_of_nextPiece? {reader : Reader} {piece rest : Bytes}
    (next : reader.nextPiece? = some (piece, rest)) {more : Bytes}
    (final : reader.ending.isSome = true → more = []) :
    lines (reader.unread ++ more) = trimLineEnd piece :: lines (rest ++ more) := by
  rcases stream_cases reader.unread with ⟨line, behind, unbroken, split⟩ | unbroken
  · rw [nextPiece?_of_line unbroken split] at next
    simp only [Option.some.injEq, Prod.mk.injEq] at next
    obtain ⟨rfl, rfl⟩ := next
    rw [split, List.append_assoc, List.cons_append, lines_append_newline unbroken]
  · -- An unfinished line is read only at the end, when nothing can arrive behind it.
    rw [nextPiece?_of_unbroken unbroken] at next
    split at next
    · rename_i ended
      simp only [Option.some.injEq, Prod.mk.injEq] at next
      obtain ⟨rfl, rfl⟩ := next
      simp only [Bool.and_eq_true, Bool.not_eq_true', List.isEmpty_eq_false_iff] at ended
      simp [final ended.1, lines_of_unbroken unbroken ended.2]
    · cases next

/-- At the end of the stream the reader finds a piece as long as a byte is left. -/
theorem unread_of_nextPiece?_none {reader : Reader} (nothing : reader.nextPiece? = none)
    (ended : reader.ending.isSome = true) : reader.unread = [] := by
  -- A full line would be a piece, and so would an unfinished one at the end.
  rcases stream_cases reader.unread with ⟨line, behind, unbroken, split⟩ | unbroken
  · rw [nextPiece?_of_line unbroken split] at nothing
    cases nothing
  · simpa [nextPiece?_of_unbroken unbroken, ended] using nothing

/-- A reader without bytes finds no piece. -/
theorem nextPiece?_of_nil {reader : Reader} (empty : reader.unread = []) :
    reader.nextPiece? = none := by
  simp [nextPiece?, empty]

/-- A reader at work has been started and has not exited. -/
theorem isReading_iff (reader : Reader) :
    reader.isReading = true ↔ reader.started = true ∧ reader.exited = false := by
  simp [isReading]

/-- A reader that is not at work reads nothing. -/
theorem settleFrom_of_resting {reader : Reader} (resting : reader.isReading = false) (fuel : Nat) :
    settleFrom (fuel + 1) reader = reader := by
  have idle : (!reader.started || reader.exited) = true := by
    rw [← Bool.not_eq_true, isReading_iff] at resting
    cases started : reader.started <;> simp_all
  simp [settleFrom, idle]

/-- A reader at work reads the first full line, and then what is behind it. -/
theorem settleFrom_of_line {reader : Reader} (reading : reader.isReading = true)
    {line rest : Bytes} (unbroken : newline ∉ line)
    (arrived : reader.unread = line ++ newline :: rest) (fuel : Nat) :
    settleFrom (fuel + 1) reader = settleFrom fuel (reader.readLine (line ++ [newline]) rest) := by
  obtain ⟨started, working⟩ := reader.isReading_iff.mp reading
  simp only [settleFrom, started, working, arrived, takeWhile_append_newline unbroken,
    List.drop_left, Bool.not_true, Bool.or_self, Bool.false_eq_true, if_false]

/-- Behind the last line feed a reader at work waits for the end of the stream. -/
theorem settleFrom_of_unbroken {reader : Reader} (reading : reader.isReading = true)
    (unbroken : newline ∉ reader.unread) (fuel : Nat) :
    settleFrom (fuel + 1) reader =
      match reader.ending with
      | some reason => reader.readEnd reason
      | none => reader := by
  obtain ⟨started, working⟩ := reader.isReading_iff.mp reading
  cases ending : reader.ending <;>
    simp only [settleFrom, started, working, ending, takeWhile_of_unbroken unbroken,
      List.drop_length, Bool.not_true, Bool.or_self, Bool.false_eq_true, if_false]

/-- The next step of the reader itself: the next piece, or the end of the stream. A reader that has
to wait for bytes, or that is not at work, has none. -/
def read? (reader : Reader) : Option Reader :=
  if reader.isReading then
    match reader.nextPiece? with
    | some (piece, rest) => some (reader.pushPiece piece rest)
    | none => reader.ending.map reader.closeAtEnd
  else none

end Reader

end TapeMachine
