import TapeMachine.Proofs.Lint.Underflow
import TapeMachine.Proofs.Program.Position

/-! Programs without the pairs that the lint reports: what is left still compiles, to the same
instructions but for these pairs. -/

namespace TapeMachine

/-- The symbols without those at some positions, counted from a start. -/
def strike (struck : Nat → Bool) : Nat → Bytes → Bytes
  | _, [] => []
  | pos, symbol :: rest =>
    if struck pos then strike struck (pos + 1) rest else symbol :: strike struck (pos + 1) rest

/-- Whether a position belongs to a pair that the lint reports. The report names the first of the
two positions. -/
def isCancelling (program : Program) (pos : Nat) : Bool :=
  (lint program).any fun issue =>
    issue.finding.kind = "CANCELLING" && (pos = issue.pos || pos = issue.pos + 1)

/-- The listing of a program without the pairs that the lint reports. -/
def withoutCancelling (program : Program) : Bytes :=
  strike (isCancelling program) 0 program.listing

/-- The positions that the reports about pairs name. -/
def cancellings (issues : Array Issue) : List Nat :=
  (issues.toList.filter fun issue => issue.finding.kind = "CANCELLING").map Issue.pos

namespace Code

/-- The positions of the pairs of one sequence, without those inside loops. -/
def ownPairs : Code → List Nat
  | done => []
  | loop _ _ rest => rest.ownPairs
  | op pos first (op next second rest) =>
    if first.cancels second then pos :: rest.ownPairs else (op next second rest).ownPairs
  | op _ _ rest => rest.ownPairs

/-- The bodies of all loops. -/
def bodies : Code → List Code
  | done => []
  | op _ _ rest => rest.bodies
  | loop _ body rest => body :: (body.bodies ++ rest.bodies)

/-- The positions of all pairs. -/
def pairs (code : Code) : List Nat := code.bodies.flatMap ownPairs ++ code.ownPairs

/-- The instructions without the pairs among them. The others keep their positions. -/
def trimmed : Code → Code
  | done => done
  | loop pos body rest => loop pos body.trimmed rest.trimmed
  | op pos first (op next second rest) =>
    if first.cancels second then rest.trimmed else op pos first (op next second rest).trimmed
  | op pos action rest => op pos action rest.trimmed

/-- Two sequences without breakpoints differ in nothing but positions, and pairs that only the first
one has. -/
inductive Trims : Code → Code → Prop
  /-- No instruction. -/
  | done : Trims done done
  /-- A pair is left out. -/
  | pair {pos next : Nat} {first second : Op} {rest short : Code}
      (cancels : first.cancels second = true) (behind : Trims rest short) :
      Trims (op pos first (op next second rest)) short
  /-- An operation stays. -/
  | op {pos place : Nat} {action : Op} {rest short : Code} (proper : action ≠ .breakpoint)
      (behind : Trims rest short) : Trims (op pos action rest) (op place action short)
  /-- A loop stays, without the pairs in its body. -/
  | loop {pos place : Nat} {body rest shortBody short : Code} (inside : Trims body shortBody)
      (behind : Trims rest short) : Trims (loop pos body rest) (loop place shortBody short)

end Code

section Report

/-- The pairs of two lists of issues are the pairs of each. -/
theorem cancellings_append (issues others : List Issue) :
    cancellings (issues ++ others).toArray =
      cancellings issues.toArray ++ cancellings others.toArray := by
  simp [cancellings]

/-- Issues of other kinds hold no pairs. -/
theorem cancellings_of_other {issues : List Issue}
    (other : ∀ issue ∈ issues, issue.finding.kind ≠ "CANCELLING") :
    cancellings issues.toArray = [] := by
  rw [cancellings, List.map_eq_nil_iff, List.filter_eq_nil_iff]
  intro issue member
  simpa using other issue member

/-- The check reports the pairs of a sequence from left to right. -/
theorem cancellings_cancelling (depth : Nat) (code : Code) :
    cancellings (code.cancelling depth).toArray = code.ownPairs := by
  -- The cases are those of the check, which goes on behind a pair.
  fun_induction Code.cancelling depth code with
  | case1 => rfl
  | case2 _ _ rest ih => rw [ih, Code.ownPairs]
  | case3 pos first next second rest undone ih =>
    rw [Code.ownPairs, if_pos undone, ← ih]
    simp [cancellings, Finding.kind]
  | case4 pos first next second rest kept ih => rw [ih, Code.ownPairs, if_neg kept]
  | case5 _ _ rest single ih =>
    rw [ih, Code.ownPairs]
    exact single

/-- The positions of the pairs that are reported at one instruction: those in the body of a loop. -/
def Visit.pairs (visit : Visit) : List Nat :=
  match visit.opcode with
  | .loop => visit.body.ownPairs
  | .basic _ => []

/-- Of what a visit reports just its pairs are pairs. -/
theorem cancellings_issues (visit : Visit) : cancellings visit.issues.toArray = visit.pairs := by
  -- Empty loops and breakpoints are reported here too, but not as pairs.
  unfold Visit.issues Visit.pairs
  cases visit.opcode with
  | loop =>
    dsimp only
    rw [cancellings_append, cancellings_cancelling, cancellings_of_other, List.nil_append]
    intro issue member
    split at member
    · simp [List.mem_singleton.mp member, Finding.kind]
    · cases member
  | basic action => cases action <;> simp [cancellings, Finding.kind]

/-- Of what several visits report just their pairs are pairs. -/
theorem cancellings_flatMap (visits : List Visit) :
    cancellings (visits.flatMap Visit.issues).toArray = visits.flatMap Visit.pairs := by
  induction visits with
  | nil => rfl
  | cons visit visits ih =>
    rw [List.flatMap_cons, cancellings_append, cancellings_issues, ih, List.flatMap_cons]

/-- A walk through the code comes to the body of every loop. -/
theorem Code.pairs_walk (code : Code) :
    ∀ depth, (code.walk depth).flatMap Visit.pairs = code.bodies.flatMap ownPairs := by
  -- A loop is met in front of its body, so its own pairs come before those inside.
  induction code with
  | done => exact fun _ => rfl
  | op pos action rest ih =>
    intro depth
    rw [walk, List.flatMap_cons, ih]
    rfl
  | loop pos body rest bodyIh restIh =>
    intro depth
    simp [walk, bodyIh, restIh, Visit.pairs, bodies]

/-- The lint reports all pairs, and nothing else as a pair. -/
theorem mem_pairs_iff (program : Program) (pos : Nat) :
    pos ∈ program.code.pairs ↔
      ∃ issue ∈ lint program, issue.finding.kind = "CANCELLING" ∧ issue.pos = pos := by
  -- The first two checks report no pairs, the walk reports those in bodies, and the last check
  -- those of the outermost sequence. Sorting the reports loses none of them.
  have underflow : cancellings (program.code.underflowFrom 0).toList.toArray = [] :=
    cancellings_of_other fun issue found => by
      simp [program.code.kind_of_underflowFrom 0 (Option.mem_toList.mp found)]
  have dead : cancellings program.code.deadLoops.toArray = [] :=
    cancellings_of_other fun issue member => by
      simp [program.code.kind_of_mem_deadLoops issue member]
  have reported : cancellings program.code.issuesByCheck.toArray = program.code.pairs := by
    rw [Code.issuesByCheck_eq, cancellings_append, cancellings_append, underflow, dead, Code.spots,
      cancellings_append, cancellings_flatMap, cancellings_cancelling, Code.pairs_walk]
    rfl
  rw [← reported]
  simp only [cancellings, List.mem_map, List.mem_filter, lint, List.mem_mergeSort,
    decide_eq_true_eq, and_assoc]

/-- A position is struck out if it is one of the two of a pair. -/
theorem isCancelling_iff (program : Program) (pos : Nat) :
    isCancelling program pos = true ↔
      ∃ first ∈ program.code.pairs, pos = first ∨ pos = first + 1 := by
  simp only [mem_pairs_iff, isCancelling, List.any_eq_true, Bool.and_eq_true, Bool.or_eq_true,
    decide_eq_true_eq]
  constructor
  · rintro ⟨issue, member, kind, here⟩
    exact ⟨issue.pos, ⟨issue, member, kind, rfl⟩, here⟩
  · rintro ⟨_, ⟨issue, member, kind, rfl⟩, here⟩
    exact ⟨issue, member, kind, here⟩

end Report

/-- A position that is not struck out keeps its symbol. -/
theorem strike_kept {struck : Nat → Bool} {pos : Nat} (here : struck pos = false) (symbol : UInt8)
    (rest : Bytes) :
    strike struck pos (symbol :: rest) = symbol :: strike struck (pos + 1) rest := by
  simp [strike, here]

/-- Symbols are struck out part by part, each at its own place. -/
theorem strike_append (struck : Nat → Bool) (behind : Bytes) :
    ∀ (symbols : Bytes) (pos : Nat), strike struck pos (symbols ++ behind) =
      strike struck pos symbols ++ strike struck (pos + symbols.length) behind := by
  intro symbols
  induction symbols with
  | nil => exact fun pos => rfl
  | cons symbol rest ih =>
    intro pos
    have next : pos + (symbol :: rest).length = pos + 1 + rest.length := by
      rw [List.length_cons]
      omega
    rw [next, List.cons_append, strike, strike, ih]
    split <;> rfl

namespace Code

/-- Two operations that cancel each other are a pair, and the next one begins behind them. -/
theorem mem_pairs_pair {first second : Op} (cancels : first.cancels second = true)
    (pos next : Nat) (rest : Code) (place : Nat) :
    place ∈ (op pos first (op next second rest)).pairs ↔ place = pos ∨ place ∈ rest.pairs := by
  simp only [pairs, bodies, ownPairs, cancels, if_true, List.mem_append, List.mem_cons]
  tauto

/-- An operation that the next one does not cancel is in no pair. -/
theorem pairs_skip {first second : Op} (kept : ¬ first.cancels second = true) (pos next : Nat)
    (rest : Code) : (op pos first (op next second rest)).pairs = (op next second rest).pairs := by
  simp [pairs, bodies, ownPairs, kept]

/-- An operation without another one behind it is in no pair. -/
theorem pairs_op (pos : Nat) (action : Op) {rest : Code}
    (single : ∀ next second behind, rest = op next second behind → False) :
    (op pos action rest).pairs = rest.pairs := by
  rw [pairs, bodies, ownPairs, pairs]
  exact single

/-- The pairs of a loop are those of its body, and those behind it follow. -/
theorem mem_pairs_loop (pos : Nat) (body rest : Code) (place : Nat) :
    place ∈ (loop pos body rest).pairs ↔ place ∈ body.pairs ∨ place ∈ rest.pairs := by
  simp only [pairs, bodies, ownPairs, List.flatMap_cons, List.flatMap_append, List.mem_append]
  tauto

/-- The pairs of code that lies in a listing lie where the code does. -/
theorem pairs_within {listing : Bytes} (code : Code) :
    ∀ {start place : Nat}, code.LiesAt listing start → place ∈ code.pairs →
      start ≤ place ∧ place + 1 < start + code.size := by
  -- The cases are those of the trimmed code: the end, a loop, a pair, and operations in no pair.
  fun_induction trimmed code with
  | case1 => exact fun _ member => nomatch member
  | case2 pos body rest bodyIh restIh =>
    rintro start place ⟨-, -, inside, -, behind⟩ member
    rw [size]
    rcases (mem_pairs_loop _ _ _ _).mp member with member | member
    · have := bodyIh inside member
      omega
    · have := restIh behind member
      omega
  | case3 pos first next second rest cancels ih =>
    rintro start place ⟨rfl, -, -, -, behind⟩ member
    rw [size, size]
    rcases (mem_pairs_pair cancels _ _ _ _).mp member with rfl | member
    · omega
    · have := ih behind member
      omega
  | case4 pos first next second rest kept ih =>
    rintro start place ⟨rfl, -, behind⟩ member
    rw [pairs_skip kept] at member
    have := ih behind member
    rw [size]
    omega
  | case5 pos action rest single ih =>
    rintro start place ⟨rfl, -, behind⟩ member
    rw [pairs_op _ _ single] at member
    have := ih behind member
    rw [size]
    omega

/-- Among the positions of some code just those of its pairs are struck out. -/
def Marked (struck : Nat → Bool) (start : Nat) (code : Code) : Prop :=
  ∀ pos, start ≤ pos → pos < start + code.size →
    (struck pos = true ↔ ∃ first ∈ code.pairs, pos = first ∨ pos = first + 1)

namespace Marked

variable {listing : Bytes} {struck : Nat → Bool} {pos : Nat} {rest : Code}

/-- An operation that is in no pair stays. -/
theorem op {action : Op} (marked : Marked struck pos (.op pos action rest))
    (behind : rest.LiesAt listing (pos + 1)) (same : (Code.op pos action rest).pairs = rest.pairs) :
    struck pos = false ∧ Marked struck (pos + 1) rest := by
  simp only [Marked, size, same] at marked
  constructor
  · -- The pairs behind the operation start behind it.
    rw [Bool.eq_false_iff, Ne, marked pos (by omega) (by omega)]
    rintro ⟨first, member, here⟩
    have later := rest.pairs_within behind member
    omega
  · exact fun place low high => marked place (by omega) (by omega)

/-- Both operations of a pair are struck out. -/
theorem pair {first second : Op} (cancels : first.cancels second = true)
    (marked : Marked struck pos (.op pos first (.op (pos + 1) second rest))) :
    struck pos = true ∧ struck (pos + 1) = true ∧ Marked struck (pos + 1 + 1) rest := by
  simp only [Marked, size, mem_pairs_pair cancels] at marked
  refine ⟨?_, ?_, fun place low high => ?_⟩
  · exact (marked pos (by omega) (by omega)).mpr ⟨pos, .inl rfl, .inl rfl⟩
  · exact (marked (pos + 1) (by omega) (by omega)).mpr ⟨pos, .inl rfl, .inr rfl⟩
  · rw [marked place (by omega) (by omega)]
    constructor
    · rintro ⟨first, rfl | member, here⟩
      · omega
      · exact ⟨first, member, here⟩
    · rintro ⟨first, member, here⟩
      exact ⟨first, .inr member, here⟩

/-- Neither bracket of a loop belongs to a pair, and no pair reaches across a bracket. -/
theorem loop {body : Code} (marked : Marked struck pos (.loop pos body rest))
    (inside : body.LiesAt listing (pos + 1)) (behind : rest.LiesAt listing (pos + body.size + 2)) :
    struck pos = false ∧ Marked struck (pos + 1) body ∧
      struck (pos + body.size + 1) = false ∧ Marked struck (pos + body.size + 2) rest := by
  simp only [Marked, size, mem_pairs_loop] at marked
  have within {place : Nat} (member : place ∈ body.pairs) := body.pairs_within inside member
  have later {place : Nat} (member : place ∈ rest.pairs) := rest.pairs_within behind member
  have bracket (place : Nat) (low : pos ≤ place) (high : place < pos + (body.size + rest.size + 2))
      (border : place = pos ∨ place = pos + body.size + 1) : struck place = false := by
    rw [Bool.eq_false_iff, Ne, marked place low high]
    rintro ⟨first, member | member, here⟩
    · have := within member
      omega
    · have := later member
      omega
  refine ⟨bracket _ (by omega) (by omega) (.inl rfl), fun place low high => ?_,
    bracket _ (by omega) (by omega) (.inr rfl), fun place low high => ?_⟩
  · rw [marked place (by omega) (by omega)]
    constructor
    · rintro ⟨first, member | member, here⟩
      · exact ⟨first, member, here⟩
      · have := later member
        omega
    · rintro ⟨first, member, here⟩
      exact ⟨first, .inl member, here⟩
  · rw [marked place (by omega) (by omega)]
    constructor
    · rintro ⟨first, member | member, here⟩
      · have := within member
        omega
      · exact ⟨first, member, here⟩
    · rintro ⟨first, member, here⟩
      exact ⟨first, .inr member, here⟩

end Marked

/-- Where just the pairs of the code are struck out, what is left is the listing of the code without
its pairs. -/
theorem strike_listing {listing : Bytes} {struck : Nat → Bool} (code : Code) :
    ∀ {start : Nat}, code.LiesAt listing start → Marked struck start code →
      strike struck start code.listing = code.trimmed.listing := by
  -- Each case strikes out just the symbols of the instructions that the trimmed code leaves out.
  fun_induction trimmed code with
  | case1 => exact fun _ _ => rfl
  | case2 pos body rest bodyIh restIh =>
    rintro start ⟨rfl, -, inside, -, behind⟩ marked
    obtain ⟨opening, within, closing, later⟩ := marked.loop inside behind
    have place : pos + 1 + body.size = pos + body.size + 1 := by omega
    rw [listing_loop, listing_loop, strike_kept opening, strike_append, bodyIh inside within,
      length_listing, place, strike_kept closing, restIh behind later]
  | case3 pos first next second rest cancels ih =>
    rintro start ⟨rfl, -, rfl, -, behind⟩ marked
    obtain ⟨here, there, later⟩ := marked.pair cancels
    rw [listing_op, listing_op, strike, here, if_pos rfl, strike, there, if_pos rfl]
    exact ih behind later
  | case4 pos first next second rest kept ih =>
    rintro start ⟨rfl, -, behind⟩ marked
    obtain ⟨here, later⟩ := marked.op behind (pairs_skip kept pos next rest)
    rw [listing_op, strike_kept here, ih behind later, listing_op]
  | case5 pos action rest single ih =>
    rintro start ⟨rfl, -, behind⟩ marked
    obtain ⟨here, later⟩ := marked.op behind (pairs_op pos action single)
    rw [listing_op, strike_kept here, ih behind later, listing_op]

/-- Leaving the pairs out and counting the positions anew changes nothing else. -/
theorem trims_numberedFrom (code : Code) :
    ascii '!' ∉ code.listing → ∀ pos, Trims code (code.trimmed.numberedFrom pos) := by
  -- A pair takes no position in the new numbering.
  fun_induction trimmed code with
  | case1 => exact fun _ _ => .done
  | case2 pos body rest bodyIh restIh =>
    intro plain place
    simp only [listing_loop, List.mem_cons, List.mem_append, not_or] at plain
    exact .loop (bodyIh plain.2.1 _) (restIh plain.2.2.2 _)
  | case3 pos first next second rest cancels ih =>
    intro plain place
    simp only [listing_op, List.mem_cons, not_or] at plain
    exact .pair cancels (ih plain.2.2 place)
  | case4 pos first next second rest kept ih =>
    intro plain place
    rw [listing_op, List.mem_cons, not_or] at plain
    exact .op (ne_breakpoint plain.1) (ih plain.2 _)
  | case5 pos action rest single ih =>
    intro plain place
    rw [listing_op, List.mem_cons, not_or] at plain
    exact .op (ne_breakpoint plain.1) (ih plain.2 _)

end Code

/-- What the lint leaves of a listing is the listing of the code without its pairs. -/
theorem withoutCancelling_eq {source : Bytes} {program : Program}
    (compiled : compile source = .ok program) :
    withoutCancelling program = program.code.trimmed.listing :=
  program.code.strike_listing (code_liesAt_of_compile compiled) fun pos _ _ =>
    isCancelling_iff program pos

/-- A source without breakpoints that compiles also compiles without the pairs that the lint
reports, to the same instructions but for the pairs and the positions. -/
theorem compile_withoutCancelling {source : Bytes} {program : Program}
    (compiled : compile source = .ok program) (plain : ascii '!' ∉ source) :
    ∃ short, compile (withoutCancelling program) = .ok short ∧
      program.code.Trims short.code := by
  have unbroken := not_mem_listing_of_compile compiled plain
  rw [withoutCancelling_eq compiled]
  exact ⟨_, compile_listing _, program.code.trims_numberedFrom unbroken 0⟩

end TapeMachine
