import TapeMachine.Proofs.Lint.Cancelling

/-! What the lint finds at single instructions and pairs of them, in the order of the listing: one
greedy scan from the left to the right finds the same pairs. -/

namespace TapeMachine

/-- The neighbours that undo each other, as they are written. -/
def cancellingPairs : List Bytes := ["+-", "-+", "<>", "><"].map utf8

/-- The positions at which a greedy scan from a position on finds such neighbours; it goes on behind
both of them. -/
def scanPairs (pos : Nat) : Bytes → List Nat
  | first :: second :: rest =>
    if [first, second] ∈ cancellingPairs then pos :: scanPairs (pos + 2) rest
    else scanPairs (pos + 1) (second :: rest)
  | _ => []

/-- Two symbols stand next to each other. -/
theorem pair_prefix_drop_iff (listing : Bytes) (pos : Nat) (first second : UInt8) :
    [first, second] <+: listing.drop pos ↔
      listing[pos]? = some first ∧ listing[pos + 1]? = some second := by
  constructor
  -- Behind the position the listing begins with the two symbols.
  · rintro ⟨after, same⟩
    rw [← Nat.add_zero pos, ← List.getElem?_drop, Nat.add_assoc, ← List.getElem?_drop, ← same]
    exact ⟨rfl, rfl⟩
  · rintro ⟨here, next⟩
    rw [drop_of_getElem? here, drop_of_getElem? next]
    exact List.prefix_append [first, second] _

/-- What the symbols at a position show by themselves, whatever stands in front of them. -/
inductive Spotted (listing : Bytes) (pos : Nat) : Finding → Prop
  /-- A breakpoint. -/
  | breakpoint (here : listing[pos]? = some Op.breakpoint.symbol) : Spotted listing pos .breakpoint
  /-- A loop that ends where it starts. -/
  | emptyLoop (start : listing[pos]? = some Opcode.loop.symbol)
      (stop : listing[pos + 1]? = some loopEnd) : Spotted listing pos .emptyLoop
  /-- Two operations that undo each other. -/
  | pair {first second : Op} (undone : first.cancels second = true)
      (here : listing[pos]? = some first.symbol) (next : listing[pos + 1]? = some second.symbol) :
      Spotted listing pos (.cancelling first second)

/-- What is found at an operation by itself. -/
def Op.issues (pos depth : Nat) (action : Op) : List Issue :=
  if action = .breakpoint then [⟨pos, depth, .breakpoint⟩] else []

namespace Code

/-- What single instructions and pairs of them show, in the order of the listing. -/
def scanned (depth : Nat) : Code → List Issue
  | done => []
  | loop pos body rest =>
    (if body.isDone then [⟨pos, depth, .emptyLoop⟩] else []) ++
      (body.scanned (depth + 1) ++ rest.scanned depth)
  | op pos first (op next second rest) =>
    if first.cancels second then ⟨pos, depth, .cancelling first second⟩ :: rest.scanned depth
    else first.issues pos depth ++ (op next second rest).scanned depth
  | op pos action rest => action.issues pos depth ++ rest.scanned depth

/-- The walk reports the issues of an operation before those behind it. -/
theorem flatMap_walk_op (pos depth : Nat) (action : Op) (rest : Code) :
    ((op pos action rest).walk depth).flatMap Visit.issues =
      action.issues pos depth ++ (rest.walk depth).flatMap Visit.issues := by
  rw [walk, List.flatMap_cons]
  cases action <;> rfl

/-- The walk and the passes over single sequences find the same as a scan in the order of the
listing, only in another order. -/
theorem spots_perm (depth : Nat) (code : Code) : (code.spots depth).Perm (code.scanned depth) := by
  fun_induction scanned depth code with
  | case1 => exact .nil
  | case2 depth pos body rest bodyIh restIh =>
    rw [spots] at bodyIh restIh ⊢
    rw [walk, cancelling, List.flatMap_cons, List.flatMap_append, Visit.issues]
    refine .trans ?_ (.append_left _ (bodyIh.append restIh))
    simp only [List.append_assoc]
    -- The pairs of the body are found with the loop, in front of what is found inside the body.
    exact .append_left _ (List.perm_append_comm_assoc _ _ _)
  | case3 depth pos first next second rest undone ih =>
    -- A pair holds no breakpoint, so the walk finds nothing at its two operations.
    have quiet : first.issues pos depth = [] ∧ second.issues next depth = [] := by
      cases first <;> cases second <;> simp [Op.cancels, Op.issues] at undone ⊢
    rw [spots, flatMap_walk_op, flatMap_walk_op, quiet.1, quiet.2, cancelling, if_pos undone]
    exact List.perm_middle.trans (.cons _ ih)
  | case4 depth pos first next second rest kept ih =>
    rw [spots, flatMap_walk_op, cancelling, if_neg kept, List.append_assoc]
    exact .append_left _ ih
  | case5 depth pos action rest single ih =>
    rw [spots, flatMap_walk_op, cancelling, List.append_assoc]
    · exact .append_left _ ih
    · exact single

section

variable {listing : Bytes}

/-- What is found at an operation by itself, and behind it. -/
theorem spotted_op {start depth : Nat} {action : Op} {behind : Code}
    (symbol : listing[start]? = some action.symbol) (here : DepthAt listing start depth)
    (later : ∀ issue ∈ behind.scanned depth,
      (Spotted listing issue.pos issue.finding ∧ DepthAt listing issue.pos issue.depth) ∧
        start + 1 ≤ issue.pos ∧ issue.pos < start + 1 + behind.size) :
    ∀ issue ∈ action.issues start depth ++ behind.scanned depth,
      (Spotted listing issue.pos issue.finding ∧ DepthAt listing issue.pos issue.depth) ∧
        start ≤ issue.pos ∧ issue.pos < start + (behind.size + 1) := by
  intro issue member
  rcases List.mem_append.mp member with member | member
  -- An operation by itself can only be a breakpoint.
  · obtain ⟨rfl, member⟩ := List.mem_ite_nil_right.mp member
    rw [List.mem_singleton.mp member]
    exact ⟨⟨.breakpoint symbol, here⟩, Nat.le_refl _, by dsimp only; omega⟩
  · obtain ⟨seen, low, high⟩ := later issue member
    exact ⟨seen, by omega, by omega⟩

/-- What the scan finds in code is to be seen in the listing, where and as deep as it says. -/
theorem spotted_of_mem_scanned (depth : Nat) (code : Code) :
    ∀ {start : Nat}, code.LiesAt listing start → DepthAt listing start depth →
      ∀ issue ∈ code.scanned depth,
        (Spotted listing issue.pos issue.finding ∧ DepthAt listing issue.pos issue.depth) ∧
          start ≤ issue.pos ∧ issue.pos < start + code.size := by
  fun_induction scanned depth code with
  | case1 => exact fun _ _ _ member => nomatch member
  | case2 depth pos body rest bodyIh restIh =>
    rintro start ⟨rfl, first, inside, stop, behind⟩ here issue member
    obtain ⟨entered, later⟩ := depthAt_parts here first inside stop
    rw [size]
    rcases List.mem_append.mp member with member | member
    · obtain ⟨empty, member⟩ := List.mem_ite_nil_right.mp member
      -- A loop without instructions ends right behind its start.
      have bare : body = .done := by
        cases body with
        | done => rfl
        | op => cases empty
        | loop => cases empty
      rw [List.mem_singleton.mp member]
      rw [bare] at stop
      exact ⟨⟨.emptyLoop first stop, here⟩, Nat.le_refl _, by dsimp only; omega⟩
    rcases List.mem_append.mp member with member | member
    -- What is found inside is one deeper, and what is found behind is as deep as the loop.
    · obtain ⟨seen, low, high⟩ := bodyIh inside entered issue member
      exact ⟨seen, by omega, by omega⟩
    · obtain ⟨seen, low, high⟩ := restIh behind later issue member
      exact ⟨seen, by omega, by omega⟩
  | case3 depth pos first next second rest undone ih =>
    rintro start ⟨rfl, symbol, rfl, other, behind⟩ here issue member
    rw [size, size]
    rcases List.mem_cons.mp member with rfl | member
    · exact ⟨⟨.pair undone symbol other, here⟩, Nat.le_refl _, by dsimp only; omega⟩
    · obtain ⟨seen, low, high⟩ := ih behind ((here.op symbol).op other) issue member
      exact ⟨seen, by omega, by omega⟩
  | case4 depth pos first next second rest kept ih =>
    rintro start ⟨rfl, symbol, behind⟩ here
    exact spotted_op symbol here (ih behind (here.op symbol))
  | case5 depth pos action rest single ih =>
    rintro start ⟨rfl, symbol, behind⟩ here
    exact spotted_op symbol here (ih behind (here.op symbol))

/-- An issue in front of sorted ones that stand further to the right is in order. -/
theorem pairwise_append_scanned {issue : Issue} {condition : Prop} [Decidable condition]
    {issues : List Issue} (later : ∀ other ∈ issues, issue.pos < other.pos)
    (sorted : issues.Pairwise fun first second => first.pos < second.pos) :
    ((if condition then [issue] else []) ++ issues).Pairwise
      fun first second => first.pos < second.pos := by
  split
  · exact .cons later sorted
  · exact sorted

/-- The scan goes from the left to the right and finds one thing at a position at most. -/
theorem pairwise_scanned (depth : Nat) (code : Code) :
    ∀ {start : Nat}, code.LiesAt listing start → DepthAt listing start depth →
      (code.scanned depth).Pairwise fun first second => first.pos < second.pos := by
  fun_induction scanned depth code with
  | case1 => exact fun _ _ => .nil
  | case2 depth pos body rest bodyIh restIh =>
    rintro start ⟨rfl, first, inside, stop, behind⟩ here
    obtain ⟨entered, outside⟩ := depthAt_parts here first inside stop
    have within := spotted_of_mem_scanned _ body inside entered
    have later := spotted_of_mem_scanned _ rest behind outside
    refine pairwise_append_scanned (fun issue member => ?_)
      -- Loop, body and rest lie one after the other in the listing.
      (List.pairwise_append.mpr ⟨bodyIh inside entered, restIh behind outside, ?_⟩)
    · rcases List.mem_append.mp member with member | member
      · exact (within issue member).2.1
      · obtain ⟨-, low, -⟩ := later issue member
        show pos < issue.pos
        omega
    · intro issue member other beyond
      obtain ⟨-, -, high⟩ := within issue member
      obtain ⟨-, low, -⟩ := later other beyond
      omega
  | case3 depth pos first next second rest undone ih =>
    rintro start ⟨rfl, symbol, rfl, other, behind⟩ here
    have outside := (here.op symbol).op other
    refine .cons (fun issue member => ?_) (ih behind outside)
    obtain ⟨-, low, -⟩ := spotted_of_mem_scanned _ rest behind outside issue member
    show pos < issue.pos
    omega
  | case4 depth pos first next second rest kept ih =>
    rintro start ⟨rfl, symbol, behind⟩ here
    refine pairwise_append_scanned (fun issue member => ?_) (ih behind (here.op symbol))
    exact (spotted_of_mem_scanned _ _ behind (here.op symbol) issue member).2.1
  | case5 depth pos action rest single ih =>
    rintro start ⟨rfl, symbol, behind⟩ here
    refine pairwise_append_scanned (fun issue member => ?_) (ih behind (here.op symbol))
    exact (spotted_of_mem_scanned _ _ behind (here.op symbol) issue member).2.1

end

/-- Operations are a pair just if they are written as one. -/
theorem mem_cancellingPairs (first second : Op) :
    [first.symbol, second.symbol] ∈ cancellingPairs ↔ first.cancels second = true := by
  cases first <;> cases second <;> decide

/-- No bracket belongs to a pair. -/
theorem not_mem_cancellingPairs {first second : UInt8}
    (bracket : ∃ symbol ∈ [first, second], symbol = Opcode.loop.symbol ∨ symbol = loopEnd) :
    [first, second] ∉ cancellingPairs := by
  have proper : ∀ pair ∈ cancellingPairs, ∀ symbol ∈ pair,
      ¬ (symbol = Opcode.loop.symbol ∨ symbol = loopEnd) := by decide +kernel
  intro member
  obtain ⟨symbol, here, same⟩ := bracket
  exact proper _ member symbol here same

/-- A symbol that is in no pair with the next one is passed. -/
theorem scanPairs_cons {first : UInt8} {behind : Bytes}
    (single : ∀ second ∈ behind.head?, [first, second] ∉ cancellingPairs) (pos : Nat) :
    scanPairs pos (first :: behind) = scanPairs (pos + 1) behind := by
  cases behind with
  | nil => rfl
  | cons second rest => rw [scanPairs, if_neg (single second rfl)]

/-- No pair begins at a bracket. -/
theorem scanPairs_bracket {bracket : UInt8}
    (known : bracket = Opcode.loop.symbol ∨ bracket = loopEnd) (pos : Nat) (behind : Bytes) :
    scanPairs pos (bracket :: behind) = scanPairs (pos + 1) behind :=
  scanPairs_cons (fun _ _ => not_mem_cancellingPairs ⟨bracket, List.mem_cons_self, known⟩) pos

/-- The greedy scan passes an operation that is in no pair with what follows it. -/
theorem scanPairs_op {pos depth : Nat} {action : Op} {code : Code} {behind : Bytes}
    (single : ∀ second ∈ (code.listing ++ behind).head?,
      [action.symbol, second] ∉ cancellingPairs)
    (later : scanPairs (pos + 1) (code.listing ++ behind) =
      cancellings (code.scanned depth).toArray ++ scanPairs (pos + 1 + code.size) behind) :
    scanPairs pos ((op pos action code).listing ++ behind) =
      cancellings (action.issues pos depth ++ code.scanned depth).toArray ++
        scanPairs (pos + (op pos action code).size) behind := by
  have loose : cancellings (action.issues pos depth).toArray = [] := by
    unfold Op.issues
    split <;> rfl
  rw [listing_op, List.cons_append, scanPairs_cons single, later, cancellings_append, loose,
    List.nil_append, size, Nat.add_assoc, Nat.add_comm 1]

/-- The greedy scan over the listing of code that a bracket or nothing follows finds its pairs, and
then goes on behind the code. -/
theorem scanPairs_listing {listing : Bytes} (depth : Nat) (code : Code) :
    ∀ {start : Nat} {behind : Bytes}, code.LiesAt listing start →
      (∀ symbol ∈ behind.head?, symbol = loopEnd) →
      scanPairs start (code.listing ++ behind) =
        cancellings (code.scanned depth).toArray ++ scanPairs (start + code.size) behind := by
  fun_induction scanned depth code with
  | case1 => exact fun _ _ => rfl
  | case2 depth pos body rest bodyIh restIh =>
    rintro start behind ⟨rfl, -, inside, -, later⟩ ended
    have loose : cancellings
        (if body.isDone then [(⟨pos, depth, .emptyLoop⟩ : Issue)] else []).toArray = [] := by
      split <;> rfl
    -- No pair reaches across a bracket, so the scan starts anew in the body and behind it.
    rw [listing_loop, List.cons_append, List.append_assoc, List.cons_append,
      scanPairs_bracket (.inl rfl), bodyIh inside (by simp), scanPairs_bracket (.inr rfl),
      show pos + 1 + body.size + 1 = pos + body.size + 2 by omega, restIh later ended,
      cancellings_append, cancellings_append, loose, size,
      show pos + body.size + 2 + rest.size = pos + (body.size + rest.size + 2) by omega]
    simp
  | case3 depth pos first next second rest undone ih =>
    rintro start behind ⟨rfl, -, rfl, -, later⟩ ended
    -- Both scans take the pair and go on behind its second operation.
    rw [listing_op, listing_op, List.cons_append, List.cons_append, scanPairs,
      if_pos ((mem_cancellingPairs _ _).mpr undone), ih later ended, size, size,
      show pos + 2 + rest.size = pos + (rest.size + 1 + 1) by omega]
    rfl
  | case4 depth pos first next second rest kept ih =>
    rintro start behind ⟨rfl, -, later⟩ ended
    refine scanPairs_op (fun symbol head => ?_) (ih later ended)
    rw [listing_op] at head
    cases head
    rwa [mem_cancellingPairs]
  | case5 depth pos action rest single ih =>
    rintro start behind ⟨rfl, -, later⟩ ended
    refine scanPairs_op (fun symbol head => not_mem_cancellingPairs ⟨symbol, by simp, ?_⟩)
      (ih later ended)
    -- What follows the operation is a loop or the end of the sequence.
    cases rest with
    | done => exact .inr (ended symbol head)
    | op next second behind => exact (single next second behind rfl).elim
    | loop place body after =>
      rw [listing_loop] at head
      cases head
      exact .inl rfl

section

variable {code : Code}

/-- The scan of the symbols finds the positions of the pairs. -/
theorem mem_scanPairs_iff (lies : code.LiesAt code.listing 0) (pos : Nat) :
    pos ∈ scanPairs 0 code.listing ↔
      ∃ issue ∈ code.scanned 0, issue.finding.kind = "CANCELLING" ∧ issue.pos = pos := by
  have scan : scanPairs 0 (code.listing ++ []) = _ := code.scanPairs_listing 0 lies nofun
  rw [List.append_nil] at scan
  -- Of all that is found the scan of the symbols sees the pairs.
  simp [scan, scanPairs, cancellings, and_assoc]

/-- Every instruction of a program is visited. -/
theorem exists_visit (lies : code.LiesAt code.listing 0) {opcode : Opcode} {pos : Nat}
    (here : code.listing[pos]? = some opcode.symbol) :
    ∃ visit ∈ code.walk 0, visit.pos = pos ∧ visit.opcode = opcode ∧
      visit.Placed code.listing := by
  obtain ⟨inside, -⟩ := List.getElem?_eq_some_iff.mp here
  rw [length_listing] at inside
  obtain ⟨visit, member, rfl⟩ := code.exists_mem_walk lies 0 pos (Nat.zero_le _) (by omega)
    (by rw [here]; simpa using opcode.symbol_ne_loopEnd)
  obtain ⟨placed, -⟩ := code.placed_of_mem_walk lies (depthAt_zero _) visit member
  -- The symbol at the position says which instruction the visit is about.
  have same := placed.symbol
  rw [here] at same
  exact ⟨visit, member, rfl, (Opcode.symbol_inj.mp (Option.some.inj same)).symm, placed⟩

end

end Code

end TapeMachine
