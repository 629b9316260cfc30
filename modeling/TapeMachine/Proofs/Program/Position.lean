import TapeMachine.Proofs.Program.Compile

/-! Every instruction of a compiled program stands at its own position in the listing. -/

namespace TapeMachine

/-- A symbol at a position comes first behind that position. -/
theorem drop_of_getElem? {listing : Bytes} {pos : Nat} {b : UInt8} (here : listing[pos]? = some b) :
    listing.drop pos = b :: listing.drop (pos + 1) := by
  rw [List.drop_eq_getElem?_toList_append, here, Option.toList_some, List.singleton_append]

namespace Code

/-- The code is listed at a position of a listing, and its instructions know their places. -/
def LiesAt (listing : Bytes) : Nat → Code → Prop
  | _, done => True
  | pos, op place action rest =>
    place = pos ∧ listing[pos]? = some action.symbol ∧ rest.LiesAt listing (pos + 1)
  | pos, loop place body rest =>
    -- The body lies between the brackets, and what follows the loop lies behind them.
    place = pos ∧ listing[pos]? = some Opcode.loop.symbol ∧ body.LiesAt listing (pos + 1) ∧
      listing[pos + body.size + 1]? = some loopEnd ∧ rest.LiesAt listing (pos + body.size + 2)

/-- Code that is numbered from its place in a listing lies there. -/
theorem liesAt_numberedFrom (code : Code) :
    ∀ before behind : Bytes,
      (code.numberedFrom before.length).LiesAt (before ++ (code.listing ++ behind))
        before.length := by
  -- The symbols that have been passed join those before the rest of the code.
  induction code with
  | done => intro before behind; trivial
  | op _ action rest ih =>
    intro before behind
    have tail := ih (before ++ [action.symbol]) behind
    refine ⟨rfl, by simp, ?_⟩
    simpa [numberedFrom] using tail
  | loop _ body rest bodyIh restIh =>
    intro before behind
    -- The body has the opening bracket before it, and the rest has the whole loop before it.
    have inside := bodyIh (before ++ [Opcode.loop.symbol]) (loopEnd :: (rest.listing ++ behind))
    have tail := restIh (before ++ Opcode.loop.symbol :: (body.listing ++ [loopEnd])) behind
    have width : (before ++ Opcode.loop.symbol :: (body.listing ++ [loopEnd])).length =
        before.length + body.size + 2 := by
      simp only [List.length_append, List.length_cons, length_listing, List.length_nil]
      omega
    rw [width] at tail
    refine ⟨rfl, by simp, ?_, ?_, ?_⟩
    · simpa using inside
    · -- The closing bracket stands right behind the body.
      rw [size_numberedFrom, listing_loop, Nat.add_assoc,
        List.getElem?_append_right (Nat.le_add_right _ _)]
      simp
    · simpa using tail

/-- What a listing holds behind a position is the code that lies there and what follows it. -/
theorem drop_of_liesAt {listing : Bytes} (code : Code) :
    ∀ pos, code.LiesAt listing pos →
      listing.drop pos = code.listing ++ listing.drop (pos + code.size) := by
  -- The symbols are taken off one by one, in the order of the tree.
  induction code with
  | done => intro pos _; simp [size]
  | op place action rest ih =>
    rintro pos ⟨-, here, behind⟩
    rw [drop_of_getElem? here, ih (pos + 1) behind, listing_op, size,
      show pos + 1 + rest.size = pos + (rest.size + 1) by omega]
    simp
  | loop place body rest bodyIh restIh =>
    rintro pos ⟨-, start, inside, stop, behind⟩
    -- Behind the body come the closing bracket and the rest.
    have within := bodyIh _ inside
    rw [show pos + 1 + body.size = pos + body.size + 1 by omega, drop_of_getElem? stop,
      restIh _ behind] at within
    rw [drop_of_getElem? start, within, listing_loop, size,
      show pos + body.size + 1 + 1 + rest.size = pos + (body.size + rest.size + 2) by omega]
    simp

end Code

/-- The code of a compiled program lies at the start of its listing. -/
theorem code_liesAt_of_compile {source : Bytes} {program : Program}
    (compiled : compile source = .ok program) : program.code.LiesAt program.listing 0 := by
  have lies := Code.liesAt_numberedFrom program.code [] []
  simpa [(program_of_compile compiled).1, Program.listing] using lies

end TapeMachine
