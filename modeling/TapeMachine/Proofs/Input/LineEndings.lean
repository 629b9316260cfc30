import TapeMachine.Proofs.Input.Reader
import TapeMachine.Proofs.Machine.Intake

/-! What stream input makes of the line endings of a stream. -/

namespace TapeMachine

/-- A stream without the carriage return directly before each line feed, and without one at its
end. -/
def withoutReturns : Bytes → Bytes
  | [] => []
  | b :: rest =>
    if b = carriageReturn ∧ (rest = [] ∨ rest.head? = some newline) then withoutReturns rest
    else b :: withoutReturns rest

/-- A stream whose lines all end with a bare line feed, the last one included. -/
def normalised (stream : Bytes) : Bytes :=
  withoutReturns stream ++ if stream = [] ∨ stream.getLast? = some newline then [] else [newline]

/-- Each line loses a carriage return of its own. -/
theorem withoutReturns_append_newline {line : Bytes} (unbroken : newline ∉ line) (rest : Bytes) :
    withoutReturns (line ++ newline :: rest) =
      withoutReturns line ++ newline :: withoutReturns rest := by
  induction line with
  | nil =>
    have other : newline ≠ carriageReturn := by decide
    simp [withoutReturns, other]
  | cons b line ih =>
    have behind : newline ∉ line := fun found => unbroken (List.mem_cons_of_mem b found)
    -- A byte is the last of the line exactly if the line feed comes next.
    have last : (line ++ newline :: rest = [] ∨
        (line ++ newline :: rest).head? = some newline) ↔
        line = [] ∨ line.head? = some newline := by
      cases line <;> simp
    rw [List.cons_append, withoutReturns, withoutReturns, ih behind]
    simp only [last]
    split <;> rfl

/-- Without a line feed only the last byte can be left out. -/
theorem withoutReturns_of_unbroken {piece : Bytes} (unbroken : newline ∉ piece) :
    withoutReturns piece =
      if piece.getLast? = some carriageReturn then piece.dropLast else piece := by
  induction piece with
  | nil => rfl
  | cons b piece ih =>
    cases piece with
    | nil => simp [withoutReturns]
    | cons c piece =>
      have behind : newline ∉ c :: piece := fun found => unbroken (List.mem_cons_of_mem b found)
      have other : c ≠ newline := by
        rintro rfl
        exact behind List.mem_cons_self
      have kept : withoutReturns (b :: c :: piece) = b :: withoutReturns (c :: piece) := by
        rw [withoutReturns]
        simp [other]
      rw [kept, ih behind, List.getLast?_cons_cons]
      split <;> simp

/-- A full line is trimmed like a stream of its own. -/
theorem trimLineEnd_append_newline {line : Bytes} (unbroken : newline ∉ line) :
    trimLineEnd (line ++ [newline]) = withoutReturns line := by
  rw [withoutReturns_of_unbroken unbroken]
  simp [trimLineEnd]

/-- An unfinished line does not end with a line feed. -/
theorem getLast?_of_unbroken {piece : Bytes} (unbroken : newline ∉ piece) :
    piece.getLast? ≠ some newline := fun found => unbroken (List.mem_of_getLast? found)

/-- An unfinished line is trimmed like a stream of its own. -/
theorem trimLineEnd_of_unbroken {piece : Bytes} (unbroken : newline ∉ piece) :
    trimLineEnd piece = withoutReturns piece := by
  rw [withoutReturns_of_unbroken unbroken]
  simp [trimLineEnd, getLast?_of_unbroken unbroken]

/-- What a program gets from a stream is the stream with all its line endings made equal. -/
theorem decode_scriptOf (stream : Bytes) :
    InputMode.stream.decode (scriptOf stream) = normalised stream := by
  -- The induction takes one full line away at a time.
  induction counted : stream.length using Nat.strongRecOn generalizing stream with
  | ind size ih =>
    rcases stream_cases stream with ⟨line, rest, unbroken, rfl⟩ | unbroken
    · have first : InputMode.stream.decode (scriptOf (line ++ newline :: rest)) =
          withoutReturns line ++ newline :: InputMode.stream.decode (scriptOf rest) := by
        rw [scriptOf, lines_append_newline unbroken, trimLineEnd_append_newline unbroken]
        simp [InputMode.decode, InputMode.brought, InputMode.fed, scriptOf]
      -- The stream is finished exactly if what is left of it is.
      have ended : (line ++ newline :: rest = [] ∨
          (line ++ newline :: rest).getLast? = some newline) ↔
          rest = [] ∨ rest.getLast? = some newline := by
        cases rest <;> simp [List.getLast?_cons_cons]
      have shorter : rest.length < size := by
        rw [← counted, List.length_append, List.length_cons]
        omega
      rw [first, ih rest.length shorter rest rfl, normalised, normalised,
        withoutReturns_append_newline unbroken]
      simp only [ended, List.append_assoc, List.cons_append]
    · cases stream with
      | nil => rfl
      | cons b stream =>
        rw [scriptOf, lines_of_unbroken unbroken (List.cons_ne_nil b stream),
          trimLineEnd_of_unbroken unbroken, normalised]
        simp [InputMode.decode, InputMode.brought, InputMode.fed, getLast?_of_unbroken unbroken]

end TapeMachine
