import TapeMachine.Lint.Basic
import TapeMachine.Proofs.Program.Walk

/-! The lint checks as lists: what each of them finds, one check after the other. -/

namespace TapeMachine

namespace Code

/-- The top-level loops that are reached while every cell is still zero. -/
def deadLoops : Code → List Issue
  | done => []
  | op _ action rest => if action.writesTape then [] else rest.deadLoops
  | loop pos body rest => ⟨pos, 0, .deadLoop body.length⟩ :: rest.deadLoops

/-- The pairs of one sequence that undo each other, without those inside loops. -/
def cancelling (depth : Nat) : Code → List Issue
  | done => []
  | loop _ _ rest => rest.cancelling depth
  | op pos first (op next second rest) =>
    if first.cancels second then ⟨pos, depth, .cancelling first second⟩ :: rest.cancelling depth
    else (op next second rest).cancelling depth
  | op _ _ rest => rest.cancelling depth

end Code

/-- What is found at one instruction. -/
def Visit.issues (visit : Visit) : List Issue :=
  match visit.opcode with
  | .loop =>
    (if visit.body.isDone then [⟨visit.pos, visit.depth, .emptyLoop⟩] else []) ++
      visit.body.cancelling (visit.depth + 1)
  | .basic .breakpoint => [⟨visit.pos, visit.depth, .breakpoint⟩]
  | .basic _ => []

namespace Code

/-- The check appends the dead loops. -/
theorem toList_appendDeadLoops (code : Code) :
    ∀ issues, (code.appendDeadLoops issues).toList = issues.toList ++ code.deadLoops := by
  induction code with
  | done => exact fun issues => (List.append_nil _).symm
  | op pos action rest ih =>
    intro issues
    rw [appendDeadLoops, deadLoops]
    split
    -- An operation that can change a cell ends the check.
    · exact (List.append_nil _).symm
    · exact ih issues
  | loop pos body rest _ ih =>
    intro issues
    simp [appendDeadLoops, deadLoops, ih]

/-- The check appends the pairs of one sequence. -/
theorem toList_appendCancelling (issues : Array Issue) (depth : Nat) (code : Code) :
    (code.appendCancelling issues depth).toList = issues.toList ++ code.cancelling depth := by
  -- The cases are those of the check, which goes on behind a pair.
  fun_induction appendCancelling issues depth code with
  | case1 issues => simp [cancelling]
  | case2 issues _ _ rest ih => rw [ih, cancelling]
  | case3 issues pos first next second rest undone ih => simp [ih, cancelling, undone]
  | case4 issues pos first next second rest kept ih => rw [ih, cancelling, if_neg kept]
  | case5 issues _ _ rest single ih =>
    rw [ih, cancelling]
    exact single

end Code

/-- A visit appends its own issues. -/
theorem Visit.toList_appendIssues (issues : Array Issue) (visit : Visit) :
    (visit.appendIssues issues).toList = issues.toList ++ visit.issues := by
  unfold Visit.appendIssues Visit.issues
  -- A loop may be empty and may have pairs in its body; a breakpoint is reported as such.
  cases visit.opcode with
  | loop =>
    dsimp only
    rw [Code.toList_appendCancelling]
    split <;> simp
  | basic action => cases action <;> simp

/-- Visits append their issues one after the other. -/
theorem Visit.toList_foldl_appendIssues (visits : List Visit) :
    ∀ issues, (visits.foldl Visit.appendIssues issues).toList =
      issues.toList ++ visits.flatMap Visit.issues := by
  induction visits with
  | nil => exact fun issues => (List.append_nil _).symm
  | cons visit visits ih =>
    intro issues
    rw [List.foldl_cons, ih, visit.toList_appendIssues, List.append_assoc, List.flatMap_cons]

/-- What the walk through code at a depth finds, and then the pairs of its outermost sequence. -/
def Code.spots (depth : Nat) (code : Code) : List Issue :=
  (code.walk depth).flatMap Visit.issues ++ code.cancelling depth

/-- The checks are made one after the other. -/
theorem Code.issuesByCheck_eq (code : Code) :
    code.issuesByCheck = (code.underflowFrom 0).toList ++ (code.deadLoops ++ code.spots 0) := by
  simp only [issuesByCheck, toList_appendCancelling, Visit.toList_foldl_appendIssues,
    toList_appendDeadLoops, visits_eq_walk, spots, List.append_assoc]

namespace Code

/-- What the check of the pointer finds is an underflow. -/
theorem kind_of_underflowFrom {issue : Issue} (code : Code) :
    ∀ offset, code.underflowFrom offset = some issue → issue.finding.kind = "UNDERFLOW" := by
  induction code with
  | done => intro offset found; cases found
  | loop => intro offset found; cases found
  | op pos action rest ih =>
    intro offset found
    unfold Code.underflowFrom at found
    split at found
    -- Only a move to the left can be reported; any other operation is passed.
    · exact ih _ found
    · split at found
      · cases found
        rfl
      · exact ih _ found
    · exact ih _ found

/-- What the check for dead loops reports is a dead loop. -/
theorem kind_of_mem_deadLoops (code : Code) :
    ∀ issue ∈ code.deadLoops, issue.finding.kind = "DEAD_LOOP" := by
  induction code with
  | done => exact nofun
  | op pos action rest ih =>
    rw [deadLoops]
    split
    · exact nofun
    · exact ih
  | loop pos body rest _ ih => exact List.forall_mem_cons.mpr ⟨rfl, ih⟩

/-- What the check for pairs reports is a pair. -/
theorem kind_of_mem_cancelling (depth : Nat) (code : Code) :
    ∀ issue ∈ code.cancelling depth, issue.finding.kind = "CANCELLING" := by
  fun_induction cancelling depth code with
  | case1 => exact nofun
  | case2 _ _ rest ih => exact ih
  | case3 pos first next second rest undone ih => exact List.forall_mem_cons.mpr ⟨rfl, ih⟩
  | case4 pos first next second rest kept ih => exact ih
  | case5 _ _ rest _ ih => exact ih

/-- The checks of single positions report three kinds of issues. -/
theorem kind_of_mem_spots (code : Code) (depth : Nat) :
    ∀ issue ∈ code.spots depth,
      issue.finding.kind ∈ ["EMPTY_LOOP", "CANCELLING", "BREAKPOINT"] := by
  intro issue member
  -- A pair is found in the body of a loop or in the outermost sequence.
  rcases List.mem_append.mp member with member | member
  · obtain ⟨visit, -, member⟩ := List.mem_flatMap.mp member
    unfold Visit.issues at member
    split at member
    · rcases List.mem_append.mp member with member | member
      · split at member
        · simp [List.mem_singleton.mp member, Finding.kind]
        · cases member
      · simp [visit.body.kind_of_mem_cancelling _ issue member]
    · simp [List.mem_singleton.mp member, Finding.kind]
    · cases member
  · simp [code.kind_of_mem_cancelling depth issue member]

end Code

/-- Sorting loses no issue. -/
theorem mem_lint (program : Program) (issue : Issue) :
    issue ∈ lint program ↔ program.code.underflowFrom 0 = some issue ∨
      issue ∈ program.code.deadLoops ∨ issue ∈ program.code.spots 0 := by
  simp only [lint, List.mem_mergeSort, Code.issuesByCheck_eq, List.mem_append, Option.mem_toList]

/-- The issues of one kind are those of the check for it. -/
theorem mem_lint_deadLoop (program : Program) (issue : Issue) :
    issue ∈ lint program ∧ issue.finding.kind = "DEAD_LOOP" ↔ issue ∈ program.code.deadLoops := by
  rw [mem_lint]
  constructor
  -- The other checks report other kinds.
  · rintro ⟨found | dead | spot, kind⟩
    · simp [program.code.kind_of_underflowFrom 0 found] at kind
    · exact dead
    · have other := program.code.kind_of_mem_spots 0 issue spot
      simp [kind] at other
  · exact fun dead => ⟨.inr (.inl dead), program.code.kind_of_mem_deadLoops issue dead⟩

end TapeMachine
