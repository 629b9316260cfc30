import TapeMachine.Program.Opcode

/-! Compiled code: sequences of instructions whose loops hold sequences again. -/

namespace TapeMachine

/-- A sequence of instructions. Each carries its position, its place in the program listing. -/
inductive Code where
  /-- No instruction. -/
  | done
  /-- An operation and what follows it. -/
  | op (pos : Nat) (action : Op) (rest : Code)
  /-- A loop with its body, and what follows it. -/
  | loop (pos : Nat) (body : Code) (rest : Code)
  deriving DecidableEq, Repr, Inhabited

namespace Code

/-- Adds to a count the instructions of the sequence, without those inside loops. -/
def lengthFrom (count : Nat) : Code → Nat
  | done => count
  | op _ _ rest => lengthFrom (count + 1) rest
  | loop _ _ rest => lengthFrom (count + 1) rest

/-- How many instructions the sequence has, without those inside loops. -/
def length (code : Code) : Nat := code.lengthFrom 0

/-- Whether there is no instruction. -/
def isDone : Code → Bool
  | done => true
  | _ => false

/-- Appends the listing: one symbol for each position, with a bracket at both ends of a loop. -/
def appendListing (listing : Array UInt8) : Code → Array UInt8
  | done => listing
  | op _ action rest => appendListing (listing.push action.symbol) rest
  | loop _ body rest =>
    appendListing ((appendListing (listing.push Opcode.loop.symbol) body).push loopEnd) rest

/-- The symbols of the instructions, one for each position. -/
def listing (code : Code) : Bytes := (appendListing #[] code).toList

end Code

/-- One instruction as it is met on a walk through the code. -/
structure Visit where
  /-- Its place in the listing. -/
  pos : Nat
  /-- The number of loops around it. -/
  depth : Nat
  /-- What it does. -/
  opcode : Opcode
  /-- The body of a loop. -/
  body : Code
  deriving DecidableEq, Repr

namespace Visit

/-- The listing of the visited instruction alone. -/
def listing (visit : Visit) : Bytes :=
  match visit.opcode with
  | .basic op => [op.symbol]
  | .loop => (Code.loop visit.pos visit.body .done).listing

end Visit

namespace Code

/-- Appends the instructions at a depth, each loop before its body. -/
def appendVisits (visits : Array Visit) (depth : Nat) : Code → Array Visit
  | done => visits
  | op pos action rest =>
    appendVisits (visits.push ⟨pos, depth, .basic action, done⟩) depth rest
  | loop pos body rest =>
    let inside := appendVisits (visits.push ⟨pos, depth, .loop, body⟩) (depth + 1) body
    appendVisits inside depth rest

/-- Every instruction in listing order. -/
def visits (code : Code) : List Visit := (appendVisits #[] 0 code).toList

end Code

/-- A compiled program. -/
structure Program where
  /-- The instructions. -/
  code : Code
  /-- The number of positions in the listing, loop ends included. -/
  length : Nat
  /-- The deepest nesting of loops. -/
  maxDepth : Nat
  deriving DecidableEq, Repr, Inhabited

namespace Program

/-- The program without instructions. -/
def empty : Program := ⟨.done, 0, 0⟩

/-- The listing of the whole program. -/
def listing (program : Program) : Bytes := program.code.listing

/-- How often an opcode occurs. -/
def count (program : Program) (opcode : Opcode) : Nat :=
  program.code.visits.countP fun visit => visit.opcode = opcode

/-- The number of instructions, loops themselves left out. -/
def instructions (program : Program) : Nat :=
  program.code.visits.countP fun visit => visit.opcode ≠ .loop

end Program

end TapeMachine
