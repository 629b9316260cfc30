import TapeMachine.Machine.Error
import TapeMachine.Machine.Mode
import TapeMachine.Proofs.Program.Position
import Mathlib.Logic.Function.Iterate

/-! The flat machine: a program counter over a listing, which jumps between matching brackets. -/

namespace TapeMachine

/-- How many symbols lie in front of the bracket that closes the surrounding pair, while `depth`
further pairs are open. -/
def distanceToClosing (opening closing : UInt8) : Nat → Bytes → Nat
  | _, [] => 0
  | depth, b :: rest =>
    -- A pair that opens on the way has to close before the surrounding one does.
    if b = opening then distanceToClosing opening closing (depth + 1) rest + 1
    else if b = closing then
      match depth with
      | 0 => 0
      | depth + 1 => distanceToClosing opening closing depth rest + 1
    else distanceToClosing opening closing depth rest + 1

/-- The position of the loop end that matches the start of a loop, looked for behind it. -/
def loopEndOf (listing : Bytes) (start : Nat) : Nat :=
  start + 1 + distanceToClosing Opcode.loop.symbol loopEnd 0 (listing.drop (start + 1))

/-- The position of the loop start that matches the end of a loop, looked for before it. -/
def loopStartOf (listing : Bytes) (stop : Nat) : Nat :=
  stop - 1 - distanceToClosing loopEnd Opcode.loop.symbol 0 (listing.take stop).reverse

/-- What an input instruction gets. -/
inductive Intake where
  /-- A byte. -/
  | byte (value : UInt8)
  /-- The end of the input. -/
  | ended
  /-- An error of the line source. -/
  | failed (cause : SourceError)
  deriving DecidableEq, Repr

/-- Input that has been taken, and what it leaves. -/
structure Supply where
  /-- What the instruction gets. -/
  intake : Intake
  /-- The bytes of the current line that are left. -/
  pending : Bytes
  /-- The entries that are left. -/
  script : List Entry
  /-- How often the line source was asked. -/
  asked : Nat
  deriving DecidableEq, Repr

/-- Takes one byte from the entries, with the end of the input behind them. -/
def nextByte (inputMode : InputMode) : List Entry → Supply
  | [] => ⟨.ended, [], [], 1⟩
  | .ended _ :: script => ⟨.ended, [], script, 1⟩
  | .failed reason :: script => ⟨.failed (.failed reason), [], script, 1⟩
  | .cancelled :: script => ⟨.failed .cancelled, [], script, 1⟩
  | .line text :: script =>
    match inputMode, text with
    | .stream, [] => ⟨.byte newline, [], script, 1⟩
    | .stream, byte :: more => ⟨.byte byte, more ++ [newline], script, 1⟩
    | .line, byte :: _ => ⟨.byte byte, [], script, 1⟩
    | .line, [] =>
      -- An empty line holds no byte, so the next entry is asked for.
      let later := nextByte inputMode script
      { later with asked := later.asked + 1 }

/-- Takes one byte: a pending one at once, or else from the entries. -/
def takeByte (inputMode : InputMode) (pending : Bytes) (script : List Entry) : Supply :=
  match pending with
  | byte :: pending => ⟨.byte byte, pending, script, 0⟩
  | [] => nextByte inputMode script

/-- The flat machine between two moves. -/
structure FlatMachine where
  /-- The position of the next symbol. -/
  counter : Nat
  /-- Whether it has come back to the start of a loop from its end. -/
  returning : Bool
  /-- The tape. -/
  tape : Tape
  /-- The bytes of the current line that have not been used yet. -/
  pending : Bytes
  /-- The entries that the line source still holds. -/
  script : List Entry
  /-- The bytes put out. -/
  output : Bytes
  /-- How often the line source was asked. -/
  reads : Nat
  /-- The positions executed: those of loop ends are left out, and so are returns. -/
  visited : List Nat
  /-- How the run ended, with an error or without. -/
  outcome : Option (Option RunError)
  deriving DecidableEq, Repr

namespace FlatMachine

/-- The machine before its first move. -/
def start (tapeLength : Nat) (script : List Entry) : FlatMachine where
  counter := 0
  returning := false
  tape := ⟨.replicate tapeLength 0, 0⟩
  pending := []
  script := script
  output := []
  reads := 0
  visited := []
  outcome := none

/-- Whether the run is over. -/
def isHalted (flat : FlatMachine) : Bool := flat.outcome.isSome

/-- Ends the run. -/
def halt (flat : FlatMachine) (error : Option RunError) : FlatMachine :=
  { flat with outcome := some error }

/-- Goes on with the next symbol. -/
def goOn (flat : FlatMachine) : FlatMachine := { flat with counter := flat.counter + 1 }

/-- The byte under the data pointer. -/
def cell (flat : FlatMachine) : UInt8 := flat.tape.cells[flat.tape.pointer]?.getD 0

/-- Puts a byte under the data pointer; every other cell stays as it is. -/
def withCell (flat : FlatMachine) (value : UInt8) : FlatMachine :=
  { flat with
    tape := ⟨flat.tape.cells.mapIdx fun address kept =>
      if address = flat.tape.pointer then value else kept, flat.tape.pointer⟩ }

/-- Takes the data pointer to another cell and goes on. -/
def goTo (flat : FlatMachine) (address : Nat) : FlatMachine :=
  { flat with tape := ⟨flat.tape.cells, address⟩ }.goOn

/-- Ends the run because the data pointer cannot leave its cell. -/
def stuck (flat : FlatMachine) (action : Op) (fault : PointerFault) : FlatMachine :=
  flat.halt (some (.pointer flat.counter (.basic action) flat.tape.pointer fault))

/-- Takes a byte of input, and goes on unless the line source fails. -/
def takeInput (flat : FlatMachine) (inputMode : InputMode) : FlatMachine :=
  let supply := takeByte inputMode flat.pending flat.script
  let asked : FlatMachine :=
    { flat with
      pending := supply.pending
      script := supply.script
      reads := flat.reads + supply.asked }
  -- At the end of the input the cell stays as it is.
  match supply.intake with
  | .byte value => (asked.withCell value).goOn
  | .ended => asked.goOn
  | .failed cause => asked.halt (some (.readInput cause))

/-- Does what an operation says. There is no debugger to enter. -/
def operate (flat : FlatMachine) (inputMode : InputMode) : Op → FlatMachine
  | .moveRight =>
    if flat.tape.cells.size ≤ flat.tape.pointer + 1 then flat.stuck .moveRight .overflow
    else flat.goTo (flat.tape.pointer + 1)
  | .moveLeft =>
    if flat.tape.pointer = 0 then flat.stuck .moveLeft .underflow
    else flat.goTo (flat.tape.pointer - 1)
  | .increment => (flat.withCell (flat.cell + 1)).goOn
  | .decrement => (flat.withCell (flat.cell - 1)).goOn
  | .output => { flat with output := flat.output ++ [flat.cell] }.goOn
  | .input => flat.takeInput inputMode
  | .breakpoint => flat.goOn

/-- Writes down that the next symbol is executed. -/
def visit (flat : FlatMachine) : FlatMachine :=
  { flat with visited := flat.visited ++ [flat.counter] }

/-- Tests a loop at its start: into the body, or behind the matching loop end. -/
def test (listing : Bytes) (flat : FlatMachine) : FlatMachine :=
  { flat with
    counter := if flat.cell = 0 then loopEndOf listing flat.counter + 1 else flat.counter + 1
    returning := false }

/-- One move over a listing. -/
def step (listing : Bytes) (inputMode : InputMode) (flat : FlatMachine) : FlatMachine :=
  if flat.isHalted then flat
  else match listing[flat.counter]? with
  | none => flat.halt none
  | some symbol =>
    if symbol = Opcode.loop.symbol then
      -- A loop counts as executed only when it is entered from the front.
      (if flat.returning then flat else flat.visit).test listing
    else if symbol = loopEnd then
      -- The end of a loop leads back to the test at its start.
      { flat with counter := loopStartOf listing flat.counter, returning := true }
    else match Op.ofSymbol? symbol with
    | none => flat.goOn
    | some action => flat.visit.operate inputMode action

/-- A number of moves over a listing. -/
def run (listing : Bytes) (inputMode : InputMode) (moves : Nat) (flat : FlatMachine) :
    FlatMachine := (step listing inputMode)^[moves] flat

end FlatMachine

/-- Code is skipped as a whole on the way to the loop end behind it. -/
theorem distanceToClosing_listing (code : Code) :
    ∀ (depth : Nat) (behind : Bytes),
      distanceToClosing Opcode.loop.symbol loopEnd depth (code.listing ++ behind) =
        code.size + distanceToClosing Opcode.loop.symbol loopEnd depth behind := by
  -- The brackets of a loop raise the depth for its body only.
  induction code with
  | done => intro depth behind; simp [Code.size]
  | op pos action rest ih =>
    intro depth behind
    simp [distanceToClosing, ih, Code.size]
    omega
  | loop pos body rest bodyIh restIh =>
    intro depth behind
    simp [distanceToClosing, bodyIh, restIh, Code.size]
    omega

/-- Code is skipped as a whole on the way back to the loop start before it. -/
theorem distanceToClosing_listing_reverse (code : Code) :
    ∀ (depth : Nat) (before : Bytes),
      distanceToClosing loopEnd Opcode.loop.symbol depth (code.listing.reverse ++ before) =
        code.size + distanceToClosing loopEnd Opcode.loop.symbol depth before := by
  -- Seen from behind, the two brackets change their roles.
  induction code with
  | done => intro depth before; simp [Code.size]
  | op pos action rest ih =>
    intro depth before
    simp [distanceToClosing, ih, Code.size]
    omega
  | loop pos body rest bodyIh restIh =>
    intro depth before
    simp [distanceToClosing, bodyIh, restIh, Code.size]
    omega

/-- The end of a loop matches its start. -/
theorem loopEndOf_eq {listing : Bytes} {body : Code} {start : Nat}
    (inside : body.LiesAt listing (start + 1))
    (stop : listing[start + body.size + 1]? = some loopEnd) :
    loopEndOf listing start = start + body.size + 1 := by
  -- Behind the opening bracket lies the body, and behind it the closing one.
  rw [loopEndOf, Code.drop_of_liesAt body _ inside, distanceToClosing_listing,
    show start + 1 + body.size = start + body.size + 1 by omega, drop_of_getElem? stop]
  -- The bracket that is left is the closing one itself.
  simp [distanceToClosing]
  omega

/-- The start of a loop matches its end. -/
theorem loopStartOf_eq {listing : Bytes} {body : Code} {start : Nat}
    (first : listing[start]? = some Opcode.loop.symbol)
    (inside : body.LiesAt listing (start + 1)) :
    loopStartOf listing (start + body.size + 1) = start := by
  -- Before the closing bracket lies the body, and before it the opening one.
  have before : listing.take (start + body.size + 1) =
      listing.take start ++ Opcode.loop.symbol :: body.listing := by
    rw [show start + body.size + 1 = start + (body.size + 1) by omega, List.take_add,
      drop_of_getElem? first, Code.drop_of_liesAt body _ inside]
    simp
  -- Read backwards, the body comes first and the opening bracket stops the search.
  rw [loopStartOf, before, List.reverse_append, List.reverse_cons, List.append_assoc,
    distanceToClosing_listing_reverse]
  simp [distanceToClosing]

end TapeMachine
