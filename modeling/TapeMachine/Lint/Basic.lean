import TapeMachine.Lint.Issue
import TapeMachine.Program.Code

/-! The lint checks on compiled code. -/

namespace TapeMachine

/-- Follows the data pointer up to the first loop, behind which it is no longer known; the first
move below cell 0 is reported. -/
def Code.underflowFrom (offset : Int) : Code → Option Issue
  | .done => none
  | .loop _ _ _ => none
  | .op pos action rest =>
    match action with
    | .moveRight => rest.underflowFrom (offset + 1)
    | .moveLeft =>
      if offset - 1 < 0 then some ⟨pos, 0, .underflow (offset - 1)⟩
      else rest.underflowFrom (offset - 1)
    | _ => rest.underflowFrom offset

/-- Whether an operation can change a cell. -/
def Op.writesTape : Op → Bool
  | .increment => true
  | .decrement => true
  | .input => true
  | _ => false

/-- Appends the top-level loops that are reached while every cell is still zero. -/
def Code.appendDeadLoops (issues : Array Issue) : Code → Array Issue
  | .done => issues
  | .op _ action rest => if action.writesTape then issues else rest.appendDeadLoops issues
  | .loop pos body rest => rest.appendDeadLoops (issues.push ⟨pos, 0, .deadLoop body.length⟩)

/-- Whether two neighbours undo each other. -/
def Op.cancels : Op → Op → Bool
  | .increment, .decrement => true
  | .decrement, .increment => true
  | .moveRight, .moveLeft => true
  | .moveLeft, .moveRight => true
  | _, _ => false

/-- Appends the pairs of one sequence that undo each other, from left to right; an instruction
belongs to one pair at most. -/
def Code.appendCancelling (issues : Array Issue) (depth : Nat) : Code → Array Issue
  | .done => issues
  | .loop _ _ rest => rest.appendCancelling issues depth
  | .op pos first (.op next second rest) =>
    if first.cancels second then
      rest.appendCancelling (issues.push ⟨pos, depth, .cancelling first second⟩) depth
    else (Code.op next second rest).appendCancelling issues depth
  | .op _ _ rest => rest.appendCancelling issues depth

/-- Appends what is found at one instruction: an empty loop, the pairs in the body of a loop, or a
breakpoint. -/
def Visit.appendIssues (issues : Array Issue) (visit : Visit) : Array Issue :=
  match visit.opcode with
  | .loop =>
    let issues :=
      if visit.body.isDone then issues.push ⟨visit.pos, visit.depth, .emptyLoop⟩ else issues
    visit.body.appendCancelling issues (visit.depth + 1)
  | .basic .breakpoint => issues.push ⟨visit.pos, visit.depth, .breakpoint⟩
  | .basic _ => issues

/-- The issues check by check: the underflow, the dead loops, what is found at single
instructions and in bodies, and the pairs of the outermost sequence. -/
def Code.issuesByCheck (code : Code) : List Issue :=
  let walked := code.visits.foldl Visit.appendIssues
    (code.appendDeadLoops (code.underflowFrom 0).toList.toArray)
  (code.appendCancelling walked 0).toList

/-- All issues of a program by position; issues at one position keep the order of the checks. -/
def lint (program : Program) : List Issue :=
  program.code.issuesByCheck.mergeSort fun first second => first.pos ≤ second.pos

end TapeMachine
