import TapeMachine.Proofs.Program.Position
import Mathlib.Data.List.Nodup

/-! The walk through a compiled program: it meets every instruction once and in listing order, and
the counts and depths that come with a program are those of its source. -/

namespace TapeMachine

/-- So many loops are open in front of a position of a listing. -/
def DepthAt (listing : Bytes) (pos depth : Nat) : Prop :=
  (listing.take pos).count Opcode.loop.symbol = (listing.take pos).count loopEnd + depth

instance (listing : Bytes) (pos depth : Nat) : Decidable (DepthAt listing pos depth) :=
  inferInstanceAs (Decidable (_ = _))

namespace DepthAt

variable {listing : Bytes} {pos depth : Nat}

/-- There is only one depth at a position. -/
theorem unique {other : Nat} (here : DepthAt listing pos depth) (also : DepthAt listing pos other) :
    depth = other := by
  unfold DepthAt at here also
  omega

/-- An operation opens no loop and closes none. -/
theorem op {action : Op} (here : DepthAt listing pos depth)
    (symbol : listing[pos]? = some action.symbol) : DepthAt listing (pos + 1) depth := by
  simp only [DepthAt, List.take_add_one, symbol, Option.toList_some, List.count_append] at here ⊢
  simp [here]

/-- Behind the start of a loop one more is open. -/
theorem enter (here : DepthAt listing pos depth)
    (symbol : listing[pos]? = some Opcode.loop.symbol) :
    DepthAt listing (pos + 1) (depth + 1) := by
  simp only [DepthAt, List.take_add_one, symbol, Option.toList_some, List.count_append] at here ⊢
  rw [List.count_singleton_self, List.count_singleton, here]
  simp
  omega

/-- Behind the end of a loop one less is open. -/
theorem leave (here : DepthAt listing pos (depth + 1))
    (symbol : listing[pos]? = some loopEnd) : DepthAt listing (pos + 1) depth := by
  simp only [DepthAt, List.take_add_one, symbol, Option.toList_some, List.count_append] at here ⊢
  rw [List.count_singleton_self, List.count_singleton, here]
  simp
  omega

end DepthAt

/-- Only an opcode itself is written like it. -/
theorem Opcode.symbol_inj {opcode other : Opcode} :
    opcode.symbol = other.symbol ↔ opcode = other := by
  constructor
  · intro same
    cases opcode with
    | loop =>
      cases other with
      | loop => rfl
      | basic action => exact absurd same.symm action.symbol_ne_loop
    | basic first =>
      cases other with
      | loop => exact absurd same first.symbol_ne_loop
      | basic second =>
        -- The byte stands for one operation only.
        have found : Op.ofSymbol? first.symbol = some second := by
          rw [show first.symbol = second.symbol from same, Op.ofSymbol?_symbol]
        rw [Op.ofSymbol?_symbol] at found
        rw [Option.some.inj found]
  · rintro rfl
    rfl

/-- No instruction is written like the end of a loop. -/
theorem Opcode.symbol_ne_loopEnd (opcode : Opcode) : opcode.symbol ≠ loopEnd := by
  cases opcode with
  | basic action => exact action.symbol_ne_loopEnd
  | loop => exact loop_ne_loopEnd

/-- Every instruction is a symbol of the source and no comment. -/
theorem Opcode.isSymbol_symbol (opcode : Opcode) : isSymbol opcode.symbol = true := by
  cases opcode with
  | basic action => exact TapeMachine.isSymbol_symbol action
  | loop => exact isSymbol_loop

/-- A visited instruction stands at its place in the listing, as deep as the walk says; only a loop
has a body, and the body lies between its brackets. -/
structure Visit.Placed (listing : Bytes) (visit : Visit) : Prop where
  symbol : listing[visit.pos]? = some visit.opcode.symbol
  depth : DepthAt listing visit.pos visit.depth
  inside : visit.opcode = .loop → visit.body.LiesAt listing (visit.pos + 1)
  stop : visit.opcode = .loop → listing[visit.pos + visit.body.size + 1]? = some loopEnd
  bodiless : visit.opcode ≠ .loop → visit.body = .done

namespace Code

/-- The instructions in listing order, each loop before its body. -/
def walk (depth : Nat) : Code → List Visit
  | done => []
  | op pos action rest => ⟨pos, depth, .basic action, done⟩ :: rest.walk depth
  | loop pos body rest => ⟨pos, depth, .loop, body⟩ :: (body.walk (depth + 1) ++ rest.walk depth)

/-- Visits are appended behind those that are already there. -/
theorem toList_appendVisits (code : Code) :
    ∀ visits depth, (code.appendVisits visits depth).toList = visits.toList ++ code.walk depth := by
  -- The induction is on the tree, with the visits so far moved out of the recursion.
  induction code with
  | done => intro visits depth; simp [appendVisits, walk]
  | op pos action rest ih => intro visits depth; simp [appendVisits, walk, ih]
  | loop pos body rest bodyIh restIh =>
    intro visits depth
    simp [appendVisits, walk, bodyIh, restIh]

/-- The visits are the walk that begins outside all loops. -/
theorem visits_eq_walk (code : Code) : code.visits = code.walk 0 := by
  rw [visits, toList_appendVisits]
  rfl

section

variable {listing : Bytes}

/-- In a listing that holds the code the depth behind the code is the depth in front of it. -/
theorem depthAt_behind (code : Code) :
    ∀ {start depth : Nat}, code.LiesAt listing start → DepthAt listing start depth →
      DepthAt listing (start + code.size) depth := by
  induction code with
  | done => exact fun _ here => here
  | op pos action rest ih =>
    rintro start depth ⟨-, symbol, behind⟩ here
    rw [size, show start + (rest.size + 1) = start + 1 + rest.size by omega]
    exact ih behind (here.op symbol)
  | loop pos body rest bodyIh restIh =>
    rintro start depth ⟨-, first, inside, stop, behind⟩ here
    -- The closing bracket takes back what the opening one has added.
    have within := bodyIh inside (here.enter first)
    rw [show start + 1 + body.size = start + body.size + 1 by omega] at within
    have later := restIh behind (within.leave stop)
    rwa [size, show start + (body.size + rest.size + 2) = start + body.size + 2 + rest.size by
      omega]

/-- Inside a loop one more loop is open than in front of it, and behind it as many again. -/
theorem depthAt_parts {body : Code} {start depth : Nat} (here : DepthAt listing start depth)
    (first : listing[start]? = some Opcode.loop.symbol) (inside : body.LiesAt listing (start + 1))
    (stop : listing[start + body.size + 1]? = some loopEnd) :
    DepthAt listing (start + 1) (depth + 1) ∧ DepthAt listing (start + body.size + 2) depth := by
  have entered := here.enter first
  have within := body.depthAt_behind inside entered
  rw [show start + 1 + body.size = start + body.size + 1 by omega] at within
  exact ⟨entered, within.leave stop⟩

/-- Inside code the depth never falls below the depth in front of it, and rises above it by the
nesting of its loops at most. -/
theorem depthAt_within (code : Code) :
    ∀ {start depth : Nat}, code.LiesAt listing start → DepthAt listing start depth →
      ∀ pos, start ≤ pos → pos ≤ start + code.size →
        ∃ extra, extra ≤ code.nesting ∧ DepthAt listing pos (depth + extra) := by
  -- A position is the start of the code, or lies in one of its parts.
  induction code with
  | done =>
    intro start depth _ here pos low high
    obtain rfl : pos = start := by
      rw [size] at high
      omega
    exact ⟨0, Nat.le_refl _, here⟩
  | op place action rest ih =>
    rintro start depth ⟨-, symbol, behind⟩ here pos low high
    rw [size] at high
    rcases Nat.eq_or_lt_of_le low with rfl | low
    · exact ⟨0, Nat.zero_le _, here⟩
    · exact ih behind (here.op symbol) pos low (by omega)
  | loop place body rest bodyIh restIh =>
    rintro start depth ⟨-, first, inside, stop, behind⟩ here pos low high
    obtain ⟨entered, later⟩ := depthAt_parts here first inside stop
    rw [size] at high
    rw [nesting]
    rcases Nat.eq_or_lt_of_le low with rfl | low
    · exact ⟨0, Nat.zero_le _, here⟩
    rcases Nat.lt_or_ge (start + body.size + 1) pos with beyond | inner
    · obtain ⟨extra, few, deep⟩ := restIh behind later pos (by omega) (by omega)
      exact ⟨extra, by omega, deep⟩
    · -- Inside the brackets one more loop is open.
      obtain ⟨extra, few, deep⟩ := bodyIh inside entered pos low (by omega)
      refine ⟨extra + 1, by omega, ?_⟩
      rwa [show depth + (extra + 1) = depth + 1 + extra by omega]

/-- Inside a loop and at its end more loops are open than in front of it. -/
theorem not_depthAt_inside {body : Code} {start depth : Nat} (here : DepthAt listing start depth)
    (first : listing[start]? = some Opcode.loop.symbol) (inside : body.LiesAt listing (start + 1))
    {pos : Nat} (low : start < pos) (high : pos < start + body.size + 2) :
    ¬ DepthAt listing pos depth := by
  intro outside
  obtain ⟨extra, -, deep⟩ := body.depthAt_within inside (here.enter first) pos low (by omega)
  have same := deep.unique outside
  omega

/-- Somewhere inside code all of its nesting is open. -/
theorem exists_deepest (code : Code) :
    ∀ {start depth : Nat}, code.LiesAt listing start → DepthAt listing start depth →
      ∃ pos, pos ≤ start + code.size ∧ DepthAt listing pos (depth + code.nesting) := by
  induction code with
  | done => exact fun {start depth} _ here => ⟨start, Nat.le_refl _, here⟩
  | op place action rest ih =>
    rintro start depth ⟨-, symbol, behind⟩ here
    obtain ⟨pos, inside, deep⟩ := ih behind (here.op symbol)
    refine ⟨pos, ?_, deep⟩
    rw [size]
    omega
  | loop place body rest bodyIh restIh =>
    rintro start depth ⟨-, first, inside, stop, behind⟩ here
    obtain ⟨entered, later⟩ := depthAt_parts here first inside stop
    rw [size, nesting]
    -- The deeper one of the two parts decides.
    rcases Nat.le_total (body.nesting + 1) rest.nesting with shallow | deep
    · obtain ⟨pos, before, deepest⟩ := restIh behind later
      refine ⟨pos, by omega, ?_⟩
      rwa [Nat.max_eq_right shallow]
    · obtain ⟨pos, before, deepest⟩ := bodyIh inside entered
      refine ⟨pos, by omega, ?_⟩
      rwa [Nat.max_eq_left deep, show depth + (body.nesting + 1) = depth + 1 + body.nesting by
        omega]

/-- Every instruction on the walk stands at its place, inside the code. -/
theorem placed_of_mem_walk (code : Code) :
    ∀ {start depth : Nat}, code.LiesAt listing start → DepthAt listing start depth →
      ∀ visit ∈ code.walk depth,
        visit.Placed listing ∧ start ≤ visit.pos ∧ visit.pos < start + code.size := by
  induction code with
  | done =>
    intro start depth _ _ visit member
    cases member
  | op place action rest ih =>
    rintro start depth ⟨rfl, symbol, behind⟩ here visit member
    rw [size]
    rcases List.mem_cons.mp member with rfl | member
    · -- An operation is no loop.
      have other : Opcode.basic action ≠ .loop := by simp
      exact ⟨⟨symbol, here, fun loop => absurd loop other, fun loop => absurd loop other,
        fun _ => rfl⟩, Nat.le_refl _, by dsimp only; omega⟩
    · obtain ⟨placed, low, high⟩ := ih behind (here.op symbol) visit member
      exact ⟨placed, by omega, by omega⟩
  | loop place body rest bodyIh restIh =>
    rintro start depth ⟨rfl, first, inside, stop, behind⟩ here visit member
    obtain ⟨entered, later⟩ := depthAt_parts here first inside stop
    rw [size]
    -- The loop itself, an instruction of its body, or one behind it.
    rcases List.mem_cons.mp member with rfl | member
    · exact ⟨⟨first, here, fun _ => inside, fun _ => stop, fun other => absurd rfl other⟩,
        Nat.le_refl _, by dsimp only; omega⟩
    rcases List.mem_append.mp member with member | member
    · obtain ⟨placed, low, high⟩ := bodyIh inside entered visit member
      exact ⟨placed, by omega, by omega⟩
    · obtain ⟨placed, low, high⟩ := restIh behind later visit member
      exact ⟨placed, by omega, by omega⟩

/-- The walk goes through the listing from the left to the right. -/
theorem pairwise_walk (code : Code) :
    ∀ {start depth : Nat}, code.LiesAt listing start → DepthAt listing start depth →
      (code.walk depth).Pairwise fun first second => first.pos < second.pos := by
  induction code with
  | done => exact fun _ _ => .nil
  | op place action rest ih =>
    rintro start depth ⟨rfl, symbol, behind⟩ here
    -- What is visited behind an operation lies behind it.
    refine .cons (fun visit member => ?_) (ih behind (here.op symbol))
    obtain ⟨-, low, -⟩ := rest.placed_of_mem_walk behind (here.op symbol) visit member
    exact low
  | loop place body rest bodyIh restIh =>
    rintro start depth ⟨rfl, first, inside, stop, behind⟩ here
    obtain ⟨entered, later⟩ := depthAt_parts here first inside stop
    -- The body lies behind the start of the loop, and in front of all that follows the loop.
    refine .cons (fun visit member => ?_)
      (List.pairwise_append.mpr ⟨bodyIh inside entered, restIh behind later, ?_⟩)
    · rcases List.mem_append.mp member with member | member
      · obtain ⟨-, low, -⟩ := body.placed_of_mem_walk inside entered visit member
        exact low
      · obtain ⟨-, low, -⟩ := rest.placed_of_mem_walk behind later visit member
        show place < visit.pos
        omega
    · intro visit member other outside
      obtain ⟨-, -, high⟩ := body.placed_of_mem_walk inside entered visit member
      obtain ⟨-, low, -⟩ := rest.placed_of_mem_walk behind later other outside
      omega

/-- The walk misses no position but those of loop ends. -/
theorem exists_mem_walk (code : Code) :
    ∀ {start : Nat}, code.LiesAt listing start →
      ∀ depth pos, start ≤ pos → pos < start + code.size → listing[pos]? ≠ some loopEnd →
        ∃ visit ∈ code.walk depth, visit.pos = pos := by
  induction code with
  | done =>
    intro start _ depth pos low high
    rw [size] at high
    omega
  | op place action rest ih =>
    rintro start ⟨rfl, -, behind⟩ depth pos low high other
    rw [size] at high
    rcases Nat.eq_or_lt_of_le low with rfl | low
    · exact ⟨_, List.mem_cons_self, rfl⟩
    · obtain ⟨visit, member, same⟩ := ih behind depth pos low (by omega) other
      exact ⟨visit, List.mem_cons_of_mem _ member, same⟩
  | loop place body rest bodyIh restIh =>
    rintro start ⟨rfl, -, inside, stop, behind⟩ depth pos low high other
    rw [size] at high
    rcases Nat.eq_or_lt_of_le low with rfl | low
    · exact ⟨_, List.mem_cons_self, rfl⟩
    -- The closing bracket is the one position that is left out.
    rcases Nat.lt_trichotomy pos (place + body.size + 1) with inner | rfl | beyond
    · obtain ⟨visit, member, same⟩ := bodyIh inside (depth + 1) pos low (by omega) other
      exact ⟨visit, List.mem_cons_of_mem _ (List.mem_append_left _ member), same⟩
    · exact absurd stop other
    · obtain ⟨visit, member, same⟩ := restIh behind depth pos (by omega) (by omega) other
      exact ⟨visit, List.mem_cons_of_mem _ (List.mem_append_right _ member), same⟩

end

/-- An opcode is met as often as it is written. -/
theorem countP_walk (opcode : Opcode) (code : Code) :
    ∀ depth, (code.walk depth).countP (fun visit => visit.opcode = opcode) =
      code.listing.count opcode.symbol := by
  -- The symbol in front of the rest decides in the same way on both sides.
  have head (first : Opcode) : (if first = opcode then 1 else 0) =
      if (first.symbol == opcode.symbol) = true then 1 else 0 := by
    simp [Opcode.symbol_inj]
  induction code with
  | done => exact fun _ => rfl
  | op pos action rest ih =>
    intro depth
    have first := head (.basic action)
    rw [walk, listing_op, List.countP_cons, List.count_cons, ih]
    simpa [Opcode.symbol] using first
  | loop pos body rest bodyIh restIh =>
    intro depth
    have first := head .loop
    have stop : (loopEnd == opcode.symbol) = false := by
      simpa using opcode.symbol_ne_loopEnd.symm
    rw [walk, listing_loop, List.countP_cons, List.count_cons, List.countP_append,
      List.count_append, List.count_cons, bodyIh, restIh]
    simpa [stop] using first

/-- Instructions take one position each, but loops take two. -/
theorem size_eq_countP (code : Code) :
    ∀ depth, code.size = (code.walk depth).countP (fun visit => visit.opcode ≠ .loop) +
      2 * (code.walk depth).countP fun visit => visit.opcode = .loop := by
  induction code with
  | done => exact fun _ => rfl
  | op pos action rest ih =>
    intro depth
    have later := ih depth
    simp [walk, size] at later ⊢
    omega
  | loop pos body rest bodyIh restIh =>
    intro depth
    have inside := bodyIh (depth + 1)
    have later := restIh depth
    simp [walk, size] at inside later ⊢
    omega

end Code

namespace Visit.Placed

variable {listing : Bytes} {visit : Visit}

/-- The listing of a visited instruction is found at its place. -/
theorem listing_prefix (placed : visit.Placed listing) :
    visit.listing <+: listing.drop visit.pos := by
  rw [drop_of_getElem? placed.symbol, Visit.listing]
  cases opcode : visit.opcode with
  | basic action => exact ⟨_, rfl⟩
  | loop =>
    -- Behind the opening bracket come the body and the closing one.
    have within := Code.drop_of_liesAt visit.body _ (placed.inside opcode)
    have stop := placed.stop opcode
    rw [show visit.pos + 1 + visit.body.size = visit.pos + visit.body.size + 1 by omega,
      drop_of_getElem? stop] at within
    refine ⟨listing.drop (visit.pos + visit.body.size + 1 + 1), ?_⟩
    simp [within]

end Visit.Placed

/-- The source and the listing open and close the same loops in front of corresponding places. -/
theorem count_withoutComments {symbol : UInt8} (proper : isSymbol symbol = true) (part : Bytes) :
    (withoutComments part).count symbol = part.count symbol := by
  rw [withoutComments, List.count_filter proper]

/-- In front of the first symbol no loop is open. -/
theorem depthAt_zero (listing : Bytes) : DepthAt listing 0 0 := rfl

/-- Compile-time metadata is exact. The walk through a compiled program visits positions in growing
order; each visited instruction is listed at its position, at a depth of as many loops as are open
in front of it there, and only loops have a body; every position that does not hold a loop end is
visited once. The length is that of the listing, which has one position for each instruction and two
for each loop; each opcode is counted as often as the source holds its symbol; and the greatest
depth is the largest number of loops that are open behind some part of the source. -/
theorem metadata_exact {source : Bytes} {program : Program}
    (compiled : compile source = .ok program) :
    (program.code.visits.Pairwise fun first second => first.pos < second.pos) ∧
    (∀ visit ∈ program.code.visits,
      visit.listing <+: program.listing.drop visit.pos ∧
      DepthAt program.listing visit.pos visit.depth ∧
      (visit.body ≠ .done → visit.opcode = .loop)) ∧
    (∀ pos symbol, program.listing[pos]? = some symbol → symbol ≠ loopEnd →
      (program.code.visits.countP fun visit => visit.pos = pos) = 1) ∧
    program.length = program.listing.length ∧
    program.listing.length = program.instructions + 2 * program.count .loop ∧
    (∀ opcode, program.count opcode = source.count opcode.symbol) ∧
    (∃ part, part <+: source ∧
      part.count Opcode.loop.symbol = part.count loopEnd + program.maxDepth) ∧
    ∀ part, part <+: source →
      part.count Opcode.loop.symbol ≤ part.count loopEnd + program.maxDepth := by
  have lies := code_liesAt_of_compile compiled
  have outside := depthAt_zero program.listing
  have sorted := program.code.pairwise_walk lies outside
  obtain ⟨-, length, deepest⟩ := program_of_compile compiled
  have listed : program.listing = withoutComments source := listing_of_compile compiled
  have size : program.listing.length = program.code.size := program.code.length_listing
  rw [Code.visits_eq_walk]
  refine ⟨sorted, ?_, ?_, ?_, ?_, ?_, ?_, ?_⟩
  · intro visit member
    obtain ⟨placed, -, -⟩ := program.code.placed_of_mem_walk lies outside visit member
    exact ⟨placed.listing_prefix, placed.depth, fun filled =>
      Decidable.byContradiction fun other => filled (placed.bodiless other)⟩
  · intro pos symbol here other
    obtain ⟨inside, -⟩ := List.getElem?_eq_some_iff.mp here
    obtain ⟨visit, member, rfl⟩ := program.code.exists_mem_walk lies 0 pos (Nat.zero_le _)
      (by omega) (by rw [here]; simpa using other)
    -- Positions that grow are met only once.
    have once : (program.code.walk 0).map Visit.pos |>.Nodup := by
      refine List.Pairwise.imp Nat.ne_of_lt ?_
      exact List.pairwise_map.mpr sorted
    have single := List.nodup_iff_count_eq_one.mp once visit.pos (List.mem_map_of_mem member)
    rw [List.count, List.countP_map] at single
    exact (List.countP_congr fun visit _ => by simp).trans single
  · rw [length, size]
  · rw [size, program.code.size_eq_countP 0, Program.instructions, Program.count,
      Code.visits_eq_walk]
  · intro opcode
    rw [Program.count, Code.visits_eq_walk, Code.countP_walk,
      show program.code.listing = withoutComments source from listed,
      count_withoutComments opcode.isSymbol_symbol]
  · -- The deepest place of the listing corresponds to a part of the source.
    obtain ⟨pos, -, deep⟩ := program.code.exists_deepest lies outside
    have before := List.take_prefix pos program.listing
    rw [listed, withoutComments, List.prefix_filter_iff] at before
    obtain ⟨part, inside, same⟩ := before
    refine ⟨part, inside, ?_⟩
    have bare : withoutComments part = program.listing.take pos := by
      rw [listed]
      exact same.symm
    rw [deepest, ← count_withoutComments isSymbol_loop, ← count_withoutComments isSymbol_loopEnd,
      bare]
    rwa [DepthAt, Nat.zero_add] at deep
  · intro part inside
    -- No part of the source is deeper, because its symbols are a beginning of the listing.
    have before : withoutComments part <+: program.listing := by
      rw [listed]
      exact inside.filter isSymbol
    have cut := List.prefix_iff_eq_take.mp before
    have short := before.length_le
    obtain ⟨extra, few, deep⟩ := program.code.depthAt_within lies outside
      (withoutComments part).length (Nat.zero_le _) (by omega)
    rw [DepthAt, ← cut] at deep
    rw [deepest, ← count_withoutComments isSymbol_loop, ← count_withoutComments isSymbol_loopEnd,
      deep]
    omega

/-- Two nested loops and a breakpoint among comments: the inner loop is the one visit of its
position, it stands in one other loop, and it makes the program two loops deep. -/
theorem metadata_exact_nested :
    let source := utf8 "+ [one [-] two]!"
    let inner : Visit := ⟨2, 1, .loop, .op 3 .decrement .done⟩
    let program : Program :=
      ⟨.op 0 .increment (.loop 1 (.loop 2 inner.body .done) (.op 6 .breakpoint .done)), 7, 2⟩
    compile source = .ok program ∧ inner ∈ program.code.visits ∧
      inner.listing <+: program.listing.drop 2 ∧ DepthAt program.listing 2 1 ∧
      (program.code.visits.countP fun visit => visit.pos = 2) = 1 ∧
      program.count .loop = source.count Opcode.loop.symbol ∧
      ∃ part, part <+: source ∧ part.count Opcode.loop.symbol = part.count loopEnd + 2 := by
  intro source inner program
  have compiled : compile source = .ok program := rfl
  have met : inner ∈ program.code.visits := by decide +kernel
  obtain ⟨-, placed, once, -, -, counted, deepest, -⟩ := metadata_exact compiled
  obtain ⟨listed, depth, -⟩ := placed inner met
  exact ⟨compiled, met, listed, depth, once 2 Opcode.loop.symbol (by decide +kernel) (by decide),
    counted .loop, deepest⟩

end TapeMachine
