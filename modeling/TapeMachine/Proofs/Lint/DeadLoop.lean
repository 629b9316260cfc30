import TapeMachine.Proofs.Lint.Checks
import TapeMachine.Proofs.Machine.Flat
import TapeMachine.Proofs.Program.Mismatch

/-! The check for dead loops reports the outermost loops that are reached on a blank tape. -/

namespace TapeMachine

/-- Outside all loops nothing in front of a position can change a cell. -/
def BlankUpTo (listing : Bytes) (pos : Nat) : Prop :=
  ∀ place symbol, place < pos → DepthAt listing place 0 → listing[place]? = some symbol →
    symbol ∉ utf8 "+-,"

/-- The operations that can change a cell are the additions, the subtractions and the inputs. -/
theorem Op.writesTape_iff (action : Op) :
    action.writesTape = true ↔ action.symbol ∈ utf8 "+-," := by
  cases action <;> decide

namespace BlankUpTo

variable {listing : Bytes} {pos : Nat}

/-- Behind an operation that changes no cell the tape is still blank. -/
theorem op (blank : BlankUpTo listing pos) {action : Op}
    (here : listing[pos]? = some action.symbol) (harmless : action.symbol ∉ utf8 "+-,") :
    BlankUpTo listing (pos + 1) := by
  intro place symbol before outside written
  rcases Nat.eq_or_lt_of_le (Nat.le_of_lt_succ before) with rfl | before
  · rw [here] at written
    cases written
    exact harmless
  · exact blank place symbol before outside written

/-- A loop is passed, whatever is in it. -/
theorem loop (blank : BlankUpTo listing pos) (here : DepthAt listing pos 0) {body : Code}
    (first : listing[pos]? = some Opcode.loop.symbol) (inside : body.LiesAt listing (pos + 1)) :
    BlankUpTo listing (pos + body.size + 2) := by
  intro place symbol before outside written
  rcases Nat.lt_trichotomy place pos with front | rfl | beyond
  · exact blank place symbol front outside written
  · rw [first] at written
    cases written
    decide
  · exact absurd outside (Code.not_depthAt_inside here first inside beyond before)

end BlankUpTo

/-- The number of instructions between two positions at which just so many loops are open. -/
def instructionsBetween (listing : Bytes) (depth start stop : Nat) : Nat :=
  (List.range' start (stop - start)).countP fun pos =>
    DepthAt listing pos depth ∧ listing[pos]? ≠ some loopEnd

/-- A dead loop of so many instructions: an outermost loop on a tape that is still blank. -/
structure DeadLoopAt (listing : Bytes) (pos instructions : Nat) : Prop where
  start : listing[pos]? = some Opcode.loop.symbol
  outside : DepthAt listing pos 0
  blank : BlankUpTo listing pos
  counted : instructions = instructionsBetween listing 1 (pos + 1) (loopEndOf listing pos)

namespace Code

section

variable {listing : Bytes}

/-- The instructions of a sequence are counted on from any number. -/
theorem lengthFrom_eq (code : Code) : ∀ count, code.lengthFrom count = count + code.length := by
  induction code with
  | done => exact fun _ => rfl
  | op pos action rest ih =>
    intro count
    rw [length, lengthFrom, lengthFrom, ih, ih (0 + 1)]
    omega
  | loop pos body rest _ ih =>
    intro count
    rw [length, lengthFrom, lengthFrom, ih, ih (0 + 1)]
    omega

/-- An operation is one instruction. -/
theorem length_op (pos : Nat) (action : Op) (rest : Code) :
    (op pos action rest).length = rest.length + 1 := by
  rw [length, lengthFrom, lengthFrom_eq]
  omega

/-- A loop is one instruction of the sequence that it stands in. -/
theorem length_loop (pos : Nat) (body rest : Code) :
    (loop pos body rest).length = rest.length + 1 := by
  rw [length, lengthFrom, lengthFrom_eq]
  omega

/-- The instructions of a sequence are those as deep as its start, loop ends left out. -/
theorem length_eq_instructionsBetween (code : Code) :
    ∀ {start depth : Nat}, code.LiesAt listing start → DepthAt listing start depth →
      code.length = instructionsBetween listing depth start (start + code.size) := by
  induction code with
  | done =>
    intro start depth _ _
    simp [instructionsBetween, length, lengthFrom, size]
  | op pos action rest ih =>
    rintro start depth ⟨-, symbol, behind⟩ here
    have later := ih behind (here.op symbol)
    rw [instructionsBetween, Nat.add_sub_cancel_left] at later ⊢
    rw [length_op, later, size, List.range'_succ, List.countP_cons_of_pos]
    -- The operation is as deep as the sequence and no loop end.
    simp [here, symbol]
  | loop pos body rest _ ih =>
    rintro start depth ⟨-, first, inside, stop, behind⟩ here
    obtain ⟨entered, outside⟩ := depthAt_parts here first inside stop
    have later := ih behind outside
    rw [instructionsBetween, Nat.add_sub_cancel_left] at later ⊢
    -- Of the whole loop only its start is as deep as the sequence.
    have within : ((List.range' (start + 1) (body.size + 1)).countP fun pos =>
        DepthAt listing pos depth ∧ listing[pos]? ≠ some loopEnd) = 0 := by
      rw [List.countP_eq_zero]
      intro place member
      rw [List.mem_range'_1] at member
      have inner : ¬ DepthAt listing place depth :=
        not_depthAt_inside here first inside (by omega) (by omega)
      simp [inner]
    rw [length_loop, later, size, show body.size + rest.size + 2 = body.size + 1 + rest.size + 1 by
      omega, List.range'_succ, List.countP_cons_of_pos (by simp [here, first]),
      ← List.range'_append_1, List.countP_append, within, Nat.zero_add,
      show start + 1 + (body.size + 1) = start + body.size + 2 by omega]

/-- The check for dead loops reports the outermost loops that only harmless operations precede. -/
theorem mem_deadLoops_iff (issue : Issue) (code : Code) :
    ∀ {start : Nat}, code.LiesAt listing start → DepthAt listing start 0 →
      BlankUpTo listing start →
      (issue ∈ code.deadLoops ↔ (start ≤ issue.pos ∧ issue.pos < start + code.size) ∧
        issue.depth = 0 ∧ ∃ instructions, issue.finding = .deadLoop instructions ∧
          DeadLoopAt listing issue.pos instructions) := by
  -- The check goes along the outermost sequence, and so does the induction; a tape that has been
  -- blank up to here is the invariant.
  induction code with
  | done =>
    intro start _ _ _
    constructor
    · intro member
      cases member
    · rintro ⟨⟨low, high⟩, -⟩
      rw [size] at high
      omega
  | op pos action rest ih =>
    rintro start ⟨rfl, symbol, behind⟩ here blank
    -- No loop starts at an operation.
    have apart : listing[issue.pos]? = some Opcode.loop.symbol → issue.pos ≠ pos := by
      intro first same
      rw [same, symbol] at first
      exact action.symbol_ne_loop (Option.some.inj first)
    rw [deadLoops]
    split
    · rename_i writes
      constructor
      · intro member
        cases member
      -- Behind an operation that can change a cell nothing is reported, and no tape is blank.
      · rintro ⟨⟨low, -⟩, -, _, -, dead⟩
        have beyond : pos < issue.pos := Nat.lt_of_le_of_ne low (apart dead.start).symm
        exact absurd (action.writesTape_iff.mp writes) (dead.blank pos _ beyond here symbol)
    · rename_i harmless
      -- Behind any other operation the check goes on, and the tape is still blank.
      have blank : BlankUpTo listing (pos + 1) :=
        blank.op symbol fun written => harmless (action.writesTape_iff.mpr written)
      rw [ih behind (here.op symbol) blank, size,
        show pos + 1 + rest.size = pos + (rest.size + 1) by omega]
      constructor
      · rintro ⟨⟨low, high⟩, reported⟩
        exact ⟨⟨by omega, high⟩, reported⟩
      · rintro ⟨⟨low, high⟩, depth, instructions, finding, dead⟩
        have beyond : pos < issue.pos := Nat.lt_of_le_of_ne low (apart dead.start).symm
        exact ⟨⟨beyond, high⟩, depth, instructions, finding, dead⟩
  | loop pos body rest _ ih =>
    rintro start ⟨rfl, first, inside, stop, behind⟩ here blank
    obtain ⟨-, outside⟩ := depthAt_parts here first inside stop
    have instructions : body.length =
        instructionsBetween listing 1 (pos + 1) (loopEndOf listing pos) := by
      rw [loopEndOf_eq inside stop, show pos + body.size + 1 = pos + 1 + body.size by omega]
      exact body.length_eq_instructionsBetween inside (here.enter first)
    rw [deadLoops, List.mem_cons, ih behind outside (blank.loop here first inside), size]
    constructor
    · rintro (rfl | ⟨⟨low, high⟩, reported⟩)
      -- The loop itself is reported, or one behind it.
      · exact ⟨⟨Nat.le_refl _, by dsimp only; omega⟩, rfl, _, rfl, first, here, blank, instructions⟩
      · exact ⟨⟨by omega, by omega⟩, reported⟩
    · rintro ⟨⟨low, high⟩, depth, count, finding, symbol, outer, reached, counted⟩
      rcases Nat.eq_or_lt_of_le low with same | beyond
      · obtain ⟨place, deep, found⟩ := issue
        cases same
        -- At its own position nothing else can be reported.
        cases depth
        cases finding
        rw [counted, ← instructions]
        exact .inl rfl
      · -- The loops inside this one are no outermost loops.
        have past : pos + body.size + 2 ≤ issue.pos := Nat.le_of_not_lt fun within =>
          not_depthAt_inside here first inside beyond within outer
        exact .inr ⟨⟨past, by omega⟩, depth, count, finding, symbol, outer, reached, counted⟩

end

/-- The brackets of a loop belong together in the listing. -/
theorem matching_of_liesAt {listing : Bytes} {pos place : Nat} {body rest : Code}
    (lies : (loop place body rest).LiesAt listing pos) :
    Matching listing pos (loopEndOf listing pos) := by
  have behind := drop_of_liesAt _ _ lies
  obtain ⟨-, first, inside, stop, -⟩ := lies
  obtain ⟨within, -⟩ := List.getElem?_eq_some_iff.mp first
  rw [listing_loop, List.cons_append, List.append_assoc, List.cons_append] at behind
  -- The listing is what comes before the loop, the loop, and what comes behind it.
  have whole := (listing.take_append_drop pos).symm
  rw [behind] at whole
  have width : (listing.take pos).length = pos := by
    rw [List.length_take]
    omega
  refine ⟨_, _, _, whole, width, ?_, body.balanced_listing⟩
  rw [width, loopEndOf_eq inside stop, length_listing]

/-- The dead loops of code stand where the code starts or behind. -/
theorem le_pos_of_mem_deadLoops {listing : Bytes} {issue : Issue} (code : Code) :
    ∀ {start : Nat}, code.LiesAt listing start → issue ∈ code.deadLoops → start ≤ issue.pos := by
  induction code with
  | done =>
    intro start _ member
    cases member
  | op pos action rest ih =>
    rintro start ⟨-, -, behind⟩ member
    rw [deadLoops] at member
    split at member
    · cases member
    · exact Nat.le_of_succ_le (ih behind member)
  | loop pos body rest _ ih =>
    rintro start ⟨rfl, -, -, -, behind⟩ member
    rw [deadLoops] at member
    rcases List.mem_cons.mp member with rfl | member
    · exact Nat.le_refl pos
    · have := ih behind member
      omega

/-- The check for dead loops goes from the left to the right. -/
theorem map_pos_deadLoops (code : Code) :
    ∀ depth, (code.deadLoops.map Issue.pos).Sublist ((code.walk depth).map Visit.pos) := by
  induction code with
  | done => exact fun _ => .slnil
  | op pos action rest ih =>
    intro depth
    rw [deadLoops]
    split
    · exact List.nil_sublist _
    · exact (ih depth).cons _
  | loop pos body rest _ ih =>
    intro depth
    rw [deadLoops, walk, List.map_cons, List.map_cons, List.map_append]
    -- The walk visits the body in between, which the check passes over.
    exact ((ih depth).trans (List.sublist_append_right _ _)).cons_cons pos

end Code

end TapeMachine
