import TapeMachine.Lint.Report
import TapeMachine.Proofs.Lint.DeadLoop
import TapeMachine.Proofs.Lint.Spots

/-! The lint reports just what a flat scan of the listing finds, from the left to the right. -/

namespace TapeMachine

/-- Up to a position no loop has started and no move has led below the first cell. -/
structure ClearUpTo (listing : Bytes) (pos : Nat) : Prop where
  straight : Opcode.loop.symbol ∉ listing.take pos
  above : ∀ place, place ≤ pos → 0 ≤ drift (listing.take place)

namespace ClearUpTo

variable {listing : Bytes} {pos : Nat}

/-- In front of a clear position stands no loop start. -/
theorem not_loop (clear : ClearUpTo listing pos) {place : Nat} (before : place < pos) :
    listing[place]? ≠ some Opcode.loop.symbol := by
  intro here
  rw [← List.getElem?_take_of_lt before] at here
  exact clear.straight (List.mem_of_getElem? here)

/-- An operation is passed that does not lead below the first cell. -/
theorem op (clear : ClearUpTo listing pos) {action : Op}
    (symbol : listing[pos]? = some action.symbol)
    (above : action = .moveLeft → 0 ≤ drift (listing.take (pos + 1))) :
    ClearUpTo listing (pos + 1) where
  straight := by
    rw [List.take_add_one, symbol, Option.toList_some, List.mem_append, List.mem_singleton, not_or]
    exact ⟨clear.straight, action.symbol_ne_loop.symm⟩
  above := by
    intro place inside
    rcases Nat.eq_or_lt_of_le inside with rfl | inside
    -- Up to the operation the way is clear already; only its own offset is new.
    · have before := clear.above pos (Nat.le_refl pos)
      have after := drift_take symbol
      cases action with
      | moveLeft => exact above rfl
      | _ =>
        rw [after]
        simp only [Op.offset]
        omega
    · exact clear.above place (by omega)

end ClearUpTo

/-- The first move that leads below the first cell, and how far. -/
structure UnderflowAt (listing : Bytes) (pos : Nat) (offset : Int) : Prop where
  move : listing[pos]? = some Op.moveLeft.symbol
  clear : ClearUpTo listing pos
  reached : offset = drift (listing.take (pos + 1))
  below : offset < 0

/-- What is to be found at a position of a listing. -/
def Flagged (listing : Bytes) (pos : Nat) : Finding → Prop
  | .breakpoint => listing[pos]? = some Op.breakpoint.symbol
  | .emptyLoop => utf8 "[]" <+: listing.drop pos
  | .cancelling first second =>
    pos ∈ scanPairs 0 listing ∧ [first.symbol, second.symbol] <+: listing.drop pos
  | .underflow offset => UnderflowAt listing pos offset
  | .deadLoop instructions => DeadLoopAt listing pos instructions

/-- One issue comes before the other: it stands further to the left, or at the same position a dead
loop comes before an empty one and an underflow before a pair. -/
def Issue.Before (first second : Issue) : Prop :=
  first.pos < second.pos ∨ first.pos = second.pos ∧
    (first.finding.kind, second.finding.kind) ∈
      [("DEAD_LOOP", "EMPTY_LOOP"), ("UNDERFLOW", "CANCELLING")]

namespace Code

/-- The check of the pointer reports the first move that leads below the first cell, if no loop
starts in front of it. -/
theorem underflowFrom_eq_some_iff {listing : Bytes} (issue : Issue) (code : Code) :
    ∀ {start : Nat}, code.LiesAt listing start → ClearUpTo listing start →
      (code.underflowFrom (drift (listing.take start)) = some issue ↔
        (start ≤ issue.pos ∧ issue.pos < start + code.size) ∧ issue.depth = 0 ∧
          ∃ offset, issue.finding = .underflow offset ∧
            UnderflowAt listing issue.pos offset) := by
  -- The check walks along the outermost sequence and stops at its first loop, and so does the
  -- induction.
  induction code with
  | done =>
    intro start _ _
    constructor
    · intro found
      cases found
    · rintro ⟨⟨low, high⟩, -⟩
      rw [size] at high
      omega
  | loop pos body rest =>
    rintro start ⟨-, first, -⟩ _
    constructor
    · intro found
      cases found
    · -- At the loop stands no move, and behind it nothing is reported any more.
      rintro ⟨⟨low, -⟩, -, offset, -, reported⟩
      rcases Nat.eq_or_lt_of_le low with same | beyond
      · have symbol := reported.move
        rw [← same, first] at symbol
        cases symbol
      · exact absurd first (reported.clear.not_loop beyond)
  | op pos action rest ih =>
    rintro start ⟨rfl, symbol, behind⟩ clear
    rw [underflowFrom_op, ← drift_take symbol]
    split
    -- Either this operation leads below the first cell, or the check goes on behind it.
    · rename_i below
      obtain ⟨rfl, below⟩ := below
      constructor
      · intro found
        cases found
        exact ⟨⟨Nat.le_refl _, by rw [size]; dsimp only; omega⟩, rfl, _, rfl, symbol, clear, rfl,
          below⟩
      · -- Further to the right the way there has led below the first cell already.
        rintro ⟨⟨low, -⟩, depth, offset, finding, reported⟩
        obtain ⟨place, deep, found⟩ := issue
        obtain rfl : place = pos := by
          refine Nat.le_antisymm (Nat.le_of_not_lt fun beyond => ?_) low
          have above := reported.clear.above (pos + 1) beyond
          omega
        cases depth
        cases finding
        rw [reported.reached]
    · rename_i above
      -- Behind an operation that stays above the first cell the way is still clear.
      have clear : ClearUpTo listing (pos + 1) := clear.op symbol fun same =>
        Int.not_lt.mp fun below => above ⟨same, below⟩
      rw [ih behind clear, size, show pos + 1 + rest.size = pos + (rest.size + 1) by omega]
      constructor
      · rintro ⟨⟨low, high⟩, found⟩
        exact ⟨⟨by omega, high⟩, found⟩
      · rintro ⟨⟨low, high⟩, depth, offset, finding, reported⟩
        -- The issue is not about this operation, which leads nowhere below the first cell.
        have apart : issue.pos ≠ pos := by
          intro same
          have move := reported.move
          have reached := reported.reached
          have below := reported.below
          rw [same, symbol] at move
          rw [same] at reached
          exact above ⟨Opcode.basic.inj (Opcode.symbol_inj.mp (Option.some.inj move)), by omega⟩
        exact ⟨⟨by omega, high⟩, depth, offset, finding, reported⟩

section

variable {code : Code}

/-- What is found on the walk or in the outermost sequence is to be found in the listing. -/
theorem flagged_of_mem_spots (lies : code.LiesAt code.listing 0) {issue : Issue}
    (member : issue ∈ code.spots 0) :
    DepthAt code.listing issue.pos issue.depth ∧
      Flagged code.listing issue.pos issue.finding := by
  have scanned := (code.spots_perm 0).mem_iff.mp member
  obtain ⟨⟨seen, deep⟩, -⟩ :=
    spotted_of_mem_scanned 0 code lies (depthAt_zero _) issue scanned
  refine ⟨deep, ?_⟩
  obtain ⟨pos, depth, finding⟩ := issue
  -- Each kind of finding is read off the symbols at its position.
  cases seen with
  | breakpoint here => exact here
  | emptyLoop start stop =>
    exact (pair_prefix_drop_iff _ _ _ _).mpr ⟨start, stop⟩
  | pair undone here next =>
    exact ⟨(mem_scanPairs_iff lies pos).mpr ⟨_, scanned, rfl, rfl⟩,
      (pair_prefix_drop_iff _ _ _ _).mpr ⟨here, next⟩⟩

/-- Breakpoints, empty loops and pairs in the listing are found. -/
theorem mem_spots_of_flagged (lies : code.LiesAt code.listing 0) {issue : Issue}
    (kind : issue.finding.kind ∈ ["EMPTY_LOOP", "CANCELLING", "BREAKPOINT"])
    (deep : DepthAt code.listing issue.pos issue.depth)
    (flagged : Flagged code.listing issue.pos issue.finding) : issue ∈ code.spots 0 := by
  obtain ⟨pos, depth, finding⟩ := issue
  cases finding with
  | underflow => simp [Finding.kind] at kind
  | deadLoop => simp [Finding.kind] at kind
  | breakpoint =>
    have here : code.listing[pos]? = some (Opcode.basic .breakpoint).symbol := flagged
    -- A symbol of the listing is an instruction that the walk visits, as deep as the symbol stands.
    obtain ⟨visit, member, rfl, opcode, placed⟩ := exists_visit lies here
    obtain rfl := deep.unique placed.depth
    refine List.mem_append_left _ (List.mem_flatMap.mpr ⟨visit, member, ?_⟩)
    simp [Visit.issues, opcode]
  | emptyLoop =>
    obtain ⟨start, stop⟩ := (pair_prefix_drop_iff _ pos Opcode.loop.symbol loopEnd).mp flagged
    obtain ⟨visit, member, rfl, opcode, placed⟩ := exists_visit lies start
    obtain rfl := deep.unique placed.depth
    -- No instruction is written like the end of a loop.
    have bare : visit.body.isDone = true := by
      have inside := placed.inside opcode
      cases body : visit.body with
      | done => rfl
      | op place action rest =>
        rw [body] at inside
        rw [inside.2.1] at stop
        exact absurd (Option.some.inj stop) action.symbol_ne_loopEnd
      | loop place inner rest =>
        rw [body] at inside
        rw [inside.2.1] at stop
        exact absurd (Option.some.inj stop) loop_ne_loopEnd
    refine List.mem_append_left _ (List.mem_flatMap.mpr ⟨visit, member, ?_⟩)
    -- So the loop that is visited is empty, and the visit reports it.
    simp [Visit.issues, opcode, bare]
  | cancelling first second =>
    obtain ⟨scan, written⟩ := flagged
    obtain ⟨here, next⟩ := (pair_prefix_drop_iff _ _ _ _).mp written
    obtain ⟨⟨place, outer, finding⟩, scanned, pair, rfl⟩ := (mem_scanPairs_iff lies pos).mp scan
    obtain ⟨⟨seen, there⟩, -⟩ :=
      spotted_of_mem_scanned 0 code lies (depthAt_zero _) _ scanned
    rw [(code.spots_perm 0).mem_iff]
    -- The symbols at the position say which pair it is.
    cases seen with
    | breakpoint => simp [Finding.kind] at pair
    | emptyLoop => simp [Finding.kind] at pair
    | @pair left right undone leftHere rightNext =>
      have same : depth = outer := deep.unique there
      subst same
      obtain rfl : left = first := by
        rw [leftHere] at here
        exact Opcode.basic.inj (Opcode.symbol_inj.mp (Option.some.inj here))
      obtain rfl : right = second := by
        rw [rightNext] at next
        exact Opcode.basic.inj (Opcode.symbol_inj.mp (Option.some.inj next))
      exact scanned

end

end Code

/-- The symbol at which something is found. -/
def Finding.symbol : Finding → UInt8
  | .underflow _ => Op.moveLeft.symbol
  | .emptyLoop => Opcode.loop.symbol
  | .deadLoop _ => Opcode.loop.symbol
  | .cancelling first _ => first.symbol
  | .breakpoint => Op.breakpoint.symbol

/-- Whatever is found stands at a symbol that its kind determines. -/
theorem Flagged.symbol {listing : Bytes} {pos : Nat} {finding : Finding}
    (flagged : Flagged listing pos finding) : listing[pos]? = some finding.symbol := by
  cases finding with
  | underflow offset => exact UnderflowAt.move flagged
  | emptyLoop => exact ((pair_prefix_drop_iff _ pos Opcode.loop.symbol loopEnd).mp flagged).1
  | deadLoop instructions => exact DeadLoopAt.start flagged
  | cancelling first second => exact ((pair_prefix_drop_iff _ _ _ _).mp flagged.2).1
  | breakpoint => exact flagged

section

variable {source : Bytes} {program : Program}

/-- In front of the first loop no loop is open. -/
theorem ClearUpTo.outside {code : Code} (lies : code.LiesAt code.listing 0) {pos : Nat}
    (inside : pos ≤ code.size) (clear : ClearUpTo code.listing pos) :
    DepthAt code.listing pos 0 := by
  obtain ⟨extra, -, deep⟩ :=
    -- The depth counts the brackets that are open, and none has been opened.
    code.depthAt_within lies (depthAt_zero _) pos (Nat.zero_le _) (by omega)
  have none := List.count_eq_zero.mpr clear.straight
  unfold DepthAt at deep ⊢
  omega

/-- The lint finds what is to be found in the listing, and nothing else. -/
theorem mem_lint_iff (compiled : compile source = .ok program) (issue : Issue) :
    issue ∈ lint program ↔
      DepthAt program.listing issue.pos issue.depth ∧
        Flagged program.listing issue.pos issue.finding := by
  have lies := code_liesAt_of_compile compiled
  have outside := depthAt_zero program.listing
  have clear : ClearUpTo program.listing 0 := by
    refine ⟨nofun, fun place inside => ?_⟩
    rw [Nat.le_zero.mp inside, List.take_zero]
    decide
  have blank : BlankUpTo program.listing 0 := nofun
  have underflow := program.code.underflowFrom_eq_some_iff issue lies clear
  have dead := program.code.mem_deadLoops_iff issue lies outside blank
  rw [mem_lint]
  constructor
  -- What one of the three checks reports is to be found in the listing.
  · rintro (found | member | member)
    · obtain ⟨⟨-, high⟩, depth, offset, finding, flagged⟩ := underflow.mp found
      rw [depth, finding]
      exact ⟨flagged.clear.outside lies (by omega), flagged⟩
    · obtain ⟨-, depth, instructions, finding, flagged⟩ := dead.mp member
      rw [depth, finding]
      exact ⟨flagged.outside, flagged⟩
    · exact Code.flagged_of_mem_spots lies member
  · rintro ⟨deep, flagged⟩
    -- What is to be found is found by the check for its kind.
    obtain ⟨inside, -⟩ := List.getElem?_eq_some_iff.mp flagged.symbol
    have within : 0 ≤ issue.pos ∧ issue.pos < 0 + program.code.size := by
      rw [Program.listing, Code.length_listing] at inside
      omega
    -- The first two checks know where they are, the others look at single positions.
    cases finding : issue.finding with
    | underflow offset =>
      rw [finding] at flagged
      have top := UnderflowAt.clear flagged |>.outside lies (by omega)
      exact .inl (underflow.mpr ⟨within, deep.unique top, offset, finding, flagged⟩)
    | deadLoop instructions =>
      rw [finding] at flagged
      have top := deep.unique (DeadLoopAt.outside flagged)
      exact .inr (.inl (dead.mpr ⟨within, top, instructions, finding, flagged⟩))
    | _ =>
      refine .inr (.inr (Code.mem_spots_of_flagged lies ?_ deep flagged))
      simp [finding, Finding.kind]

/-- Sorting keeps the order of the issues at one position. -/
theorem filter_lint (program : Program) (pos : Nat) :
    (lint program).filter (fun issue => issue.pos = pos) =
      program.code.issuesByCheck.filter fun issue => issue.pos = pos := by
  have kept : (program.code.issuesByCheck.filter fun issue => issue.pos = pos).Sublist
      (lint program) := by
    -- The sort is stable, and issues at one position are in order for it.
    refine List.sublist_mergeSort ?_ ?_ ?_ List.filter_sublist
    · simpa using fun first second third => Nat.le_trans
    · simpa using fun first second : Issue => Nat.le_total first.pos second.pos
    · rw [List.pairwise_filter]
      refine List.pairwise_of_forall fun first second here there => ?_
      simp_all
  have part := kept.filter fun issue => issue.pos = pos
  rw [List.filter_filter] at part
  simp only [Bool.and_self] at part
  -- Sorting loses no issue, so the part is as long as the whole.
  exact (part.eq_of_length ((List.mergeSort_perm _ _).filter _).length_eq.symm).symm

namespace Finding

/-- An underflow is reported at a move to the left. -/
theorem symbol_of_underflow {finding : Finding} (kind : finding.kind = "UNDERFLOW") :
    finding.symbol = Op.moveLeft.symbol := by
  cases finding with
  | underflow => rfl
  | _ => simp [Finding.kind] at kind

/-- A dead loop is reported at its opening bracket. -/
theorem symbol_of_deadLoop {finding : Finding} (kind : finding.kind = "DEAD_LOOP") :
    finding.symbol = Opcode.loop.symbol := by
  cases finding with
  | deadLoop => rfl
  | _ => simp [Finding.kind] at kind

/-- Of what is found at single positions, only a pair starts with a move. -/
theorem kind_of_move {finding : Finding} (symbol : finding.symbol = Op.moveLeft.symbol)
    (single : finding.kind ∈ ["EMPTY_LOOP", "CANCELLING", "BREAKPOINT"]) :
    finding.kind = "CANCELLING" := by
  cases finding with
  | cancelling => rfl
  | emptyLoop => cases symbol
  | breakpoint => cases symbol
  | _ => simp [Finding.kind] at single

/-- Of what is found at single positions, only an empty loop starts with a bracket. -/
theorem kind_of_loop {finding : Finding} (symbol : finding.symbol = Opcode.loop.symbol)
    (single : finding.kind ∈ ["EMPTY_LOOP", "CANCELLING", "BREAKPOINT"]) :
    finding.kind = "EMPTY_LOOP" := by
  cases finding with
  | emptyLoop => rfl
  | cancelling first => exact absurd symbol first.symbol_ne_loop
  | breakpoint => cases symbol
  | _ => simp [Finding.kind] at single

end Finding

/-- If two checks find something at one position, the first of them finds a dead loop or an
underflow there, and the second an empty loop or a pair. -/
theorem pairwise_issuesByCheck (compiled : compile source = .ok program) :
    program.code.issuesByCheck.Pairwise fun first second => first.pos = second.pos →
      (first.finding.kind, second.finding.kind) ∈
        [("DEAD_LOOP", "EMPTY_LOOP"), ("UNDERFLOW", "CANCELLING")] := by
  have lies := code_liesAt_of_compile compiled
  have outside := depthAt_zero program.listing
  -- Findings at one position are findings at one symbol.
  have symbol {first second : Issue} (one : first ∈ lint program) (other : second ∈ lint program)
      (same : first.pos = second.pos) : first.finding.symbol = second.finding.symbol := by
    have left := ((mem_lint_iff compiled first).mp one).2.symbol
    rw [same, ((mem_lint_iff compiled second).mp other).2.symbol] at left
    exact (Option.some.inj left).symm
  have spot {issue : Issue} (member : issue ∈ program.code.spots 0) : issue ∈ lint program :=
    (mem_lint _ _).mpr (.inr (.inr member))
  have dead {issue : Issue} (member : issue ∈ program.code.deadLoops) : issue ∈ lint program :=
    (mem_lint _ _).mpr (.inr (.inl member))
  rw [Code.issuesByCheck_eq]
  refine List.pairwise_append.mpr ⟨?_, List.pairwise_append.mpr ⟨?_, ?_, ?_⟩, ?_⟩
  -- The first check reports one issue at most.
  · cases program.code.underflowFrom 0 with
    | none => exact .nil
    | some issue => exact List.pairwise_singleton _ _
  -- Dead loops do not overlap, so no two of them start at one position.
  · have sorted := (List.pairwise_map.mpr (program.code.pairwise_walk lies outside)).sublist
      (program.code.map_pos_deadLoops 0)
    exact (List.pairwise_map.mp sorted).imp fun before same => absurd same (Nat.ne_of_lt before)
  · -- In the order of the listing every position comes once, and so it does in any order.
    have apart := (program.code.pairwise_scanned 0 lies outside).imp Nat.ne_of_lt
    have unsorted := ((program.code.spots_perm 0).pairwise_iff Ne.symm).mpr apart
    exact unsorted.imp fun different same => absurd same different
  · intro first one second other same
    -- A dead loop shares its bracket with an empty loop, if with anything.
    have kind := program.code.kind_of_mem_deadLoops first one
    have bracket := symbol (dead one) (spot other) same
    rw [Finding.symbol_of_deadLoop kind] at bracket
    rw [kind, Finding.kind_of_loop bracket.symm (program.code.kind_of_mem_spots 0 second other)]
    decide
  · intro first one second other same
    have found := Option.mem_toList.mp one
    have kind := program.code.kind_of_underflowFrom 0 found
    have move {second : Issue} (other : second ∈ lint program) (same : first.pos = second.pos) :
        Op.moveLeft.symbol = second.finding.symbol := by
      rw [← Finding.symbol_of_underflow kind]
      exact symbol ((mem_lint _ _).mpr (.inl found)) other same
    rcases List.mem_append.mp other with other | other
    · -- No loop starts at a move.
      have bracket := Finding.symbol_of_deadLoop (program.code.kind_of_mem_deadLoops second other)
      rw [← move (dead other) same] at bracket
      exact absurd bracket Op.moveLeft.symbol_ne_loop
    · rw [kind, Finding.kind_of_move (move (spot other) same).symm
        (program.code.kind_of_mem_spots 0 second other)]
      decide

/-- An issue comes before those behind it in the report. -/
theorem pairwise_lint (compiled : compile source = .ok program) :
    (lint program).Pairwise Issue.Before := by
  rw [List.pairwise_iff_forall_sublist]
  intro first second part
  have sorted : (lint program).Pairwise fun first second => first.pos ≤ second.pos := by
    -- The sort itself gives the order of the positions.
    refine (List.pairwise_mergeSort ?_ ?_ _).imp of_decide_eq_true
    · simpa using fun first second third => Nat.le_trans
    · simpa using fun first second : Issue => Nat.le_total first.pos second.pos
  rcases Nat.eq_or_lt_of_le (List.pairwise_iff_forall_sublist.mp sorted part) with same | before
  · -- At one position the checks decide.
    have here := part.filter fun issue => issue.pos = first.pos
    rw [filter_lint] at here
    have unsorted := here.trans List.filter_sublist
    simp only [same, decide_true, List.filter_cons_of_pos, List.filter_nil] at unsorted
    have order := List.pairwise_iff_forall_sublist.mp (pairwise_issuesByCheck compiled) unsorted
    exact .inr ⟨same, order same⟩
  · exact .inl before

/-- Each severity takes its part of the issues, and each issue has a severity. -/
theorem perm_bySeverity (issues : List Issue) :
    (issues.filter (fun issue => issue.finding.severity = .error) ++
      (issues.filter (fun issue => issue.finding.severity = .warning) ++
        issues.filter fun issue => issue.finding.severity = .info)).Perm issues := by
  induction issues with
  | nil => exact .nil
  | cons issue issues ih =>
    -- The issue in front goes to the part of its severity.
    cases severity : issue.finding.severity with
    | error => simpa [severity] using ih
    | warning => simpa [severity] using List.perm_middle.trans (ih.cons issue)
    | info =>
      rw [← List.append_assoc] at ih ⊢
      simpa [severity] using List.perm_middle.trans (ih.cons issue)

end

/-- The lint equals a flat scan of the listing. It reports at every position, and as deep as the
brackets in front of it say, what the listing shows there: breakpoints, empty loops, the pairs of
one greedy scan over the whole listing, the first move in front of all loops that leads below the
first cell, and the outermost loops that no operation in front of them can have given a cell to
work on. The issues stand in the order of their positions, and only a dead loop and an empty one, or
an underflow and a pair, share a position, in this order. A report splits this list by severity:
each part keeps its order, and together they hold every issue once. -/
theorem lint_eq_flat_scan {source : Bytes} {program : Program}
    (compiled : compile source = .ok program) :
    (∀ issue, issue ∈ lint program ↔
      DepthAt program.listing issue.pos issue.depth ∧
        Flagged program.listing issue.pos issue.finding) ∧
    (lint program).Pairwise Issue.Before ∧
    ∀ name, let report := Report.ofProgram name program
      report.issues = lint program ∧
      (report.errors ++ (report.warnings ++ report.infos)).Perm report.issues ∧
      ∀ severity part,
        (severity, part) ∈ [(Severity.error, report.errors), (Severity.warning, report.warnings),
          (Severity.info, report.infos)] →
        part.Sublist report.issues ∧ ∀ issue ∈ part, issue.finding.severity = severity := by
  refine ⟨mem_lint_iff compiled, pairwise_lint compiled, ?_⟩
  intro name report
  refine ⟨rfl, perm_bySeverity report.issues, fun severity part which => ?_⟩
  have filtered : part = report.withSeverity severity := by
    -- Each part is named after the severity that it is filtered by.
    simp only [List.mem_cons, List.not_mem_nil, or_false, Prod.mk.injEq] at which
    rcases which with ⟨rfl, rfl⟩ | ⟨rfl, rfl⟩ | ⟨rfl, rfl⟩ <;> rfl
  rw [filtered]
  exact ⟨List.filter_sublist, fun issue member => of_decide_eq_true (List.mem_filter.mp member).2⟩

/-- A move below the first cell that is also the start of a pair, a dead loop without a body, a
breakpoint, and a pair in a loop that is not dead. -/
theorem lint_eq_flat_scan_shared :
    let program : Program := ⟨.op 0 .moveLeft (.op 1 .moveRight (.loop 2 .done
      (.op 4 .increment (.loop 5 (.op 6 .breakpoint (.op 7 .decrement (.op 8 .increment .done)))
        .done)))), 10, 1⟩
    compile (utf8 "<>[]+[!-+]") = .ok program ∧
      lint program =
        [⟨0, 0, .underflow (-1)⟩, ⟨0, 0, .cancelling .moveLeft .moveRight⟩, ⟨2, 0, .deadLoop 0⟩,
          ⟨2, 0, .emptyLoop⟩, ⟨6, 1, .breakpoint⟩, ⟨7, 1, .cancelling .decrement .increment⟩] ∧
      (lint program).Pairwise Issue.Before ∧
      Flagged program.listing 7 (.cancelling .decrement .increment) := by
  intro program
  have compiled : compile (utf8 "<>[]+[!-+]") = .ok program := rfl
  -- The checks report one after the other, and sorting brings their issues together.
  have checks : program.code.issuesByCheck =
      [⟨0, 0, .underflow (-1)⟩, ⟨2, 0, .deadLoop 0⟩, ⟨2, 0, .emptyLoop⟩,
        ⟨7, 1, .cancelling .decrement .increment⟩, ⟨6, 1, .breakpoint⟩,
        ⟨0, 0, .cancelling .moveLeft .moveRight⟩] := rfl
  have issues : lint program =
      [⟨0, 0, .underflow (-1)⟩, ⟨0, 0, .cancelling .moveLeft .moveRight⟩, ⟨2, 0, .deadLoop 0⟩,
        ⟨2, 0, .emptyLoop⟩, ⟨6, 1, .breakpoint⟩, ⟨7, 1, .cancelling .decrement .increment⟩] := by
    rw [lint, checks]
    simp [List.mergeSort, List.MergeSort.Internal.splitInTwo]
  obtain ⟨members, sorted, -⟩ := lint_eq_flat_scan compiled
  refine ⟨compiled, issues, sorted, ?_⟩
  exact ((members ⟨7, 1, .cancelling .decrement .increment⟩).mp (by simp [issues])).2

end TapeMachine
