import TapeMachine.Program.Code

/-! Listings as lists of symbols, the positions that they give to instructions, and their bytes. -/

namespace TapeMachine

/-- Whether a source byte is an instruction or a loop end; every other byte is a comment. -/
def isSymbol (b : UInt8) : Bool :=
  [ascii '>', ascii '<', ascii '+', ascii '-', ascii '.', ascii ',', ascii '!', ascii '[',
    ascii ']'].contains b

/-- A source without its comments. -/
def withoutComments (source : Bytes) : Bytes := source.filter isSymbol

/-- No operation is written like the start of a loop. -/
@[simp] theorem Op.symbol_ne_loop (action : Op) : action.symbol ≠ Opcode.loop.symbol := by
  cases action <;> decide

/-- No operation is written like the end of a loop. -/
@[simp] theorem Op.symbol_ne_loopEnd (action : Op) : action.symbol ≠ loopEnd := by
  cases action <;> decide

/-- The two ends of a loop are written differently. -/
@[simp] theorem loopEnd_ne_loop : loopEnd ≠ Opcode.loop.symbol := by decide

/-- The two ends of a loop are written differently, the other way round. -/
@[simp] theorem loop_ne_loopEnd : Opcode.loop.symbol ≠ loopEnd := by decide

/-- The symbol of an operation stands for that operation. -/
@[simp] theorem Op.ofSymbol?_symbol (action : Op) : Op.ofSymbol? action.symbol = some action := by
  cases action <;> decide

/-- A byte that stands for an operation is the symbol of that operation. -/
theorem Op.symbol_of_ofSymbol? {b : UInt8} {action : Op} (found : Op.ofSymbol? b = some action) :
    b = action.symbol := by
  -- The search returns only operations whose symbol has been compared with the byte.
  have matched := List.find?_some found
  simpa using (of_decide_eq_true matched).symm

/-- Symbols of operations are no comments. -/
@[simp] theorem isSymbol_symbol (action : Op) : isSymbol action.symbol = true := by
  cases action <;> decide

/-- The start of a loop is no comment. -/
@[simp] theorem isSymbol_loop : isSymbol Opcode.loop.symbol = true := by decide

/-- The end of a loop is no comment. -/
@[simp] theorem isSymbol_loopEnd : isSymbol loopEnd = true := by decide

/-- A byte starts a loop, ends one, stands for an operation or is a comment. -/
theorem symbol_cases (b : UInt8) :
    b = Opcode.loop.symbol ∨ b = loopEnd ∨ (∃ action : Op, b = action.symbol) ∨
      isSymbol b = false := by
  -- The nine symbols are listed in `isSymbol`; all of them but the brackets belong to operations.
  cases known : isSymbol b with
  | false => simp
  | true =>
    simp only [isSymbol, List.contains_cons, List.contains_nil, Bool.or_false, Bool.or_eq_true,
      beq_iff_eq] at known
    rcases known with same | same | same | same | same | same | same | same | same
    · exact .inr (.inr (.inl ⟨.moveRight, same⟩))
    · exact .inr (.inr (.inl ⟨.moveLeft, same⟩))
    · exact .inr (.inr (.inl ⟨.increment, same⟩))
    · exact .inr (.inr (.inl ⟨.decrement, same⟩))
    · exact .inr (.inr (.inl ⟨.output, same⟩))
    · exact .inr (.inr (.inl ⟨.input, same⟩))
    · exact .inr (.inr (.inl ⟨.breakpoint, same⟩))
    · exact .inl same
    · exact .inr (.inl same)

/-- A comment is no start of a loop. -/
theorem ne_loop_of_comment {b : UInt8} (comment : isSymbol b = false) :
    b ≠ Opcode.loop.symbol := by
  rintro rfl
  simp at comment

/-- A comment is no end of a loop. -/
theorem ne_loopEnd_of_comment {b : UInt8} (comment : isSymbol b = false) : b ≠ loopEnd := by
  rintro rfl
  simp at comment

/-- A comment stands for no operation. -/
theorem ofSymbol?_of_comment {b : UInt8} (comment : isSymbol b = false) :
    Op.ofSymbol? b = none := by
  -- An operation that the byte stands for would make it a symbol.
  cases found : Op.ofSymbol? b with
  | none => rfl
  | some action =>
    rw [Op.symbol_of_ofSymbol? found] at comment
    simp at comment

namespace Code

/-- Listing behind symbols that are already there only adds symbols at their end. -/
theorem appendListing_toList (code : Code) :
    ∀ listing : Array UInt8,
      (appendListing listing code).toList = listing.toList ++ code.listing := by
  -- Both the accumulated symbols and the empty start must be moved out of the recursion.
  induction code with
  | done => intro listing; simp [appendListing, Code.listing]
  | op pos action rest ih =>
    intro listing
    have tail := ih #[action.symbol]
    simp only [appendListing, Code.listing] at ih tail ⊢
    simp [ih (listing.push action.symbol), tail]
  | loop pos body rest bodyIh restIh =>
    intro listing
    have inside := bodyIh #[Opcode.loop.symbol]
    have behind := restIh ((appendListing #[Opcode.loop.symbol] body).push loopEnd)
    simp only [appendListing, Code.listing] at bodyIh restIh inside behind ⊢
    simp [restIh ((appendListing (listing.push Opcode.loop.symbol) body).push loopEnd),
      bodyIh (listing.push Opcode.loop.symbol), behind, inside]

/-- No instruction has no symbol. -/
@[simp] theorem listing_done : Code.done.listing = [] := rfl

/-- An operation is listed in front of what follows it. -/
@[simp] theorem listing_op (pos : Nat) (action : Op) (rest : Code) :
    (Code.op pos action rest).listing = action.symbol :: rest.listing := by
  show (appendListing #[action.symbol] rest).toList = _
  simpa using appendListing_toList rest #[action.symbol]

/-- A loop is listed between its brackets in front of what follows it. -/
@[simp] theorem listing_loop (pos : Nat) (body rest : Code) :
    (Code.loop pos body rest).listing =
      Opcode.loop.symbol :: (body.listing ++ loopEnd :: rest.listing) := by
  -- The body is appended to the opening bracket and the rest to the closing one.
  have inside := appendListing_toList body #[Opcode.loop.symbol]
  have behind := appendListing_toList rest
    ((appendListing #[Opcode.loop.symbol] body).push loopEnd)
  simpa [inside, Code.listing, appendListing] using behind

/-- The number of positions that the instructions take in a listing. -/
def size : Code → Nat
  | done => 0
  | op _ _ rest => rest.size + 1
  | loop _ body rest => body.size + rest.size + 2

/-- Each position holds one symbol. -/
@[simp] theorem length_listing (code : Code) : code.listing.length = code.size := by
  -- A loop takes two positions for its brackets.
  induction code with
  | done => rfl
  | op pos action rest ih => simp [size, ih]
  | loop pos body rest bodyIh restIh =>
    simp only [listing_loop, List.length_cons, List.length_append, bodyIh, restIh, size]
    omega

/-- The deepest nesting of loops. -/
def nesting : Code → Nat
  | done => 0
  | op _ _ rest => rest.nesting
  | loop _ body rest => max (body.nesting + 1) rest.nesting

/-- The same instructions with the positions of a listing that starts at `pos`. -/
def numberedFrom (pos : Nat) : Code → Code
  | done => done
  | op _ action rest => op pos action (rest.numberedFrom (pos + 1))
  | loop _ body rest =>
    loop pos (body.numberedFrom (pos + 1)) (rest.numberedFrom (pos + body.size + 2))

/-- Numbering changes no symbol. -/
@[simp] theorem listing_numberedFrom (code : Code) :
    ∀ pos, (code.numberedFrom pos).listing = code.listing := by
  induction code with
  | done => intro pos; rfl
  | op _ action rest ih => intro pos; simp [numberedFrom, ih]
  | loop _ body rest bodyIh restIh => intro pos; simp [numberedFrom, bodyIh, restIh]

/-- Numbering changes no size. -/
@[simp] theorem size_numberedFrom (code : Code) (pos : Nat) :
    (code.numberedFrom pos).size = code.size := by
  -- The size is the length of the listing, which numbering keeps.
  rw [← length_listing, listing_numberedFrom, length_listing]

/-- Only the last numbering counts. -/
theorem numberedFrom_numberedFrom (code : Code) :
    ∀ pos start, (code.numberedFrom pos).numberedFrom start = code.numberedFrom start := by
  -- Positions are counted from the start again, and numbering keeps the size of bodies.
  induction code with
  | done => intro pos start; rfl
  | op _ action rest ih => intro pos start; simp [numberedFrom, ih]
  | loop _ body rest bodyIh restIh =>
    intro pos start
    simp [numberedFrom, bodyIh, restIh]

/-- Numbering changes no nesting. -/
@[simp] theorem nesting_numberedFrom (code : Code) :
    ∀ pos, (code.numberedFrom pos).nesting = code.nesting := by
  -- The depth is a matter of the tree alone.
  induction code with
  | done => intro pos; rfl
  | op _ action rest ih => intro pos; simp [numberedFrom, nesting, ih]
  | loop _ body rest bodyIh restIh =>
    intro pos
    simp [numberedFrom, nesting, bodyIh, restIh]

end Code

end TapeMachine
