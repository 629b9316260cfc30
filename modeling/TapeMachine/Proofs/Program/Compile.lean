import TapeMachine.Program.Compile
import TapeMachine.Proofs.Program.Listing

/-! Compilation and listing are inverse to each other, and exactly the balanced sources compile. -/

namespace TapeMachine

/-- No loop end comes before its loop, and every loop has an end. -/
def Balanced (source : Bytes) : Prop :=
  (∀ part, part <+: source → part.count loopEnd ≤ part.count Opcode.loop.symbol) ∧
    source.count Opcode.loop.symbol = source.count loopEnd

/-- The source closes exactly `depth` loops that are open in front of it. -/
def Closes (depth : Nat) (source : Bytes) : Prop :=
  (∀ part, part <+: source → part.count loopEnd ≤ depth + part.count Opcode.loop.symbol) ∧
    depth + source.count Opcode.loop.symbol = source.count loopEnd

/-- A source is balanced if it closes all loops when none is open in front of it. -/
theorem balanced_iff_closes (source : Bytes) : Balanced source ↔ Closes 0 source := by
  simp [Balanced, Closes]

/-- A condition on the parts of a source splits at its first byte. -/
theorem forall_part_cons (b : UInt8) (source : Bytes) (P : Bytes → Prop) :
    (∀ part, part <+: b :: source → P part) ↔ P [] ∧ ∀ part, part <+: source → P (b :: part) := by
  -- A part is empty, or starts with the same byte.
  constructor
  · intro all
    exact ⟨all [] (by simp), fun part inside => all (b :: part) (by simpa using inside)⟩
  · rintro ⟨empty, longer⟩ part inside
    cases part with
    | nil => exact empty
    | cons c part =>
      obtain ⟨rfl, within⟩ := List.cons_prefix_cons.mp inside
      exact longer part within

/-- The end of the source closes no loop. -/
@[simp] theorem closes_nil (depth : Nat) : Closes depth [] ↔ depth = 0 := by
  simp [Closes]

/-- The start of a loop opens one more. -/
@[simp] theorem closes_loop (depth : Nat) (source : Bytes) :
    Closes depth (Opcode.loop.symbol :: source) ↔ Closes (depth + 1) source := by
  -- The bracket moves from the counted symbols to the loops that are open already.
  simp only [Closes, forall_part_cons, List.count_cons_self,
    List.count_cons_of_ne loop_ne_loopEnd, List.count_nil, Nat.zero_le, true_and,
    Nat.add_assoc, Nat.add_comm 1]

/-- The end of a loop closes one of the open loops. -/
@[simp] theorem closes_loopEnd (depth : Nat) (source : Bytes) :
    Closes (depth + 1) (loopEnd :: source) ↔ Closes depth source := by
  simp only [Closes, forall_part_cons, List.count_cons_self,
    List.count_cons_of_ne loopEnd_ne_loop, List.count_nil, Nat.zero_le, true_and]
  -- The loop that is closed leaves both sides of every comparison.
  constructor
  · rintro ⟨parts, all⟩
    exact ⟨fun part inside => by have := parts part inside; omega, by omega⟩
  · rintro ⟨parts, all⟩
    exact ⟨fun part inside => by have := parts part inside; omega, by omega⟩

/-- The end of a loop closes nothing if no loop is open. -/
@[simp] theorem not_closes_loopEnd (source : Bytes) : ¬ Closes 0 (loopEnd :: source) := by
  -- The part that is only the bracket has one end too many.
  rintro ⟨parts, -⟩
  have alone := parts [loopEnd] (by simp)
  simp at alone

/-- A byte that is no bracket neither opens nor closes a loop. -/
theorem closes_other {b : UInt8} (loop : b ≠ Opcode.loop.symbol) (stop : b ≠ loopEnd)
    (depth : Nat) (source : Bytes) : Closes depth (b :: source) ↔ Closes depth source := by
  simp only [Closes, forall_part_cons, List.count_cons_of_ne loop, List.count_cons_of_ne stop,
    List.count_nil, Nat.zero_le, true_and]

namespace Assembly

/-- Reading the start of a loop. -/
@[simp] theorem read_loop (assembly : Assembly) (offset : Nat) (rest : Bytes) :
    assembly.read offset (Opcode.loop.symbol :: rest) =
      (assembly.openLoop offset).read (offset + 1) rest := by
  simp [read]

/-- Reading the end of a loop while none is open. -/
theorem read_loopEnd_of_none {assembly : Assembly} (opened : assembly.loops = []) (offset : Nat)
    (rest : Bytes) : assembly.read offset (loopEnd :: rest) = .error (.tooClosed, offset) := by
  simp [read, closeLoop?, opened]

/-- The assembly behind the end of a loop. -/
def closed (assembly : Assembly) (innermost : OpenLoop) (outer : List OpenLoop) : Assembly where
  pos := assembly.pos + 1
  depth := assembly.depth - 1
  maxDepth := assembly.maxDepth
  items := .loop innermost.pos (Item.sequence assembly.items) :: innermost.outer
  loops := outer

/-- Reading the end of the innermost open loop. -/
theorem read_loopEnd_of_cons {assembly : Assembly} {innermost : OpenLoop} {outer : List OpenLoop}
    (opened : assembly.loops = innermost :: outer) (offset : Nat) (rest : Bytes) :
    assembly.read offset (loopEnd :: rest) =
      (assembly.closed innermost outer).read (offset + 1) rest := by
  simp [read, closeLoop?, opened, closed]

/-- Reading an operation. -/
@[simp] theorem read_op (assembly : Assembly) (offset : Nat) (action : Op) (rest : Bytes) :
    assembly.read offset (action.symbol :: rest) =
      (assembly.addOp action).read (offset + 1) rest := by
  simp [read]

/-- Reading a comment. -/
theorem read_comment (assembly : Assembly) (offset : Nat) {b : UInt8}
    (comment : isSymbol b = false) (rest : Bytes) :
    assembly.read offset (b :: rest) = assembly.read (offset + 1) rest := by
  simp [read, ne_loop_of_comment comment, ne_loopEnd_of_comment comment,
    ofSymbol?_of_comment comment]

/-- Reading succeeds exactly if the source closes the loops that are open. -/
theorem read_ok_iff_closes (source : Bytes) :
    ∀ (assembly : Assembly) (offset : Nat),
      (∃ result, assembly.read offset source = .ok result) ↔
        Closes assembly.loops.length source := by
  -- The number of open loops is all of the state that decides about success.
  induction source with
  -- At the end of the source no loop may be open.
  | nil =>
    intro assembly offset
    cases opened : assembly.loops with
    | nil => simp [read, opened]
    | cons innermost outer => simp [read, opened]
  | cons b rest ih =>
    intro assembly offset
    -- Each kind of byte changes the number of open loops in the same way on both sides.
    rcases symbol_cases b with rfl | rfl | ⟨action, rfl⟩ | comment
    · rw [read_loop, ih, closes_loop]
      simp [openLoop]
    · cases opened : assembly.loops with
      | nil => simp [read_loopEnd_of_none opened]
      | cons innermost outer =>
        rw [read_loopEnd_of_cons opened, ih]
        simp [closed]
    · rw [read_op, ih, closes_other action.symbol_ne_loop action.symbol_ne_loopEnd]
      simp [addOp]
    · rw [read_comment assembly offset comment, ih,
        closes_other (ne_loop_of_comment comment) (ne_loopEnd_of_comment comment)]

/-- The assembly without the offsets of its open loops, which only errors mention. -/
def forgetOffsets (assembly : Assembly) : Assembly :=
  { assembly with loops := assembly.loops.map fun loop => { loop with offset := 0 } }

/-- Assemblies that are alike but for offsets are so in each part. -/
theorem forgetOffsets_eq_iff (assembly other : Assembly) :
    assembly.forgetOffsets = other.forgetOffsets ↔
      assembly.pos = other.pos ∧ assembly.depth = other.depth ∧
        assembly.maxDepth = other.maxDepth ∧ assembly.items = other.items ∧
        assembly.loops.map (fun loop => { loop with offset := 0 }) =
          other.loops.map fun loop => { loop with offset := 0 } := by
  simp [forgetOffsets]

/-- Comments do not change the program that is read. -/
theorem read_withoutComments (source : Bytes) :
    ∀ (assembly other : Assembly) (offset position : Nat),
      assembly.forgetOffsets = other.forgetOffsets →
      (assembly.read offset source).toOption.map program =
        (other.read position (withoutComments source)).toOption.map program := by
  -- The two readers stand at different offsets, which no program remembers.
  induction source with
  -- Both readers have the same number of loops open at the end, and fail or succeed together.
  | nil =>
    intro assembly other offset position alike
    obtain ⟨pos, depth, deepest, items, loops⟩ := (forgetOffsets_eq_iff _ _).mp alike
    cases opened : assembly.loops with
    | nil =>
      have closed : other.loops = [] := by simpa [opened] using loops.symm
      simp [read, withoutComments, opened, closed, Except.toOption, program, pos, deepest, items]
    | cons innermost outer =>
      cases others : other.loops with
      | nil => simp [opened, others] at loops
      | cons first more => simp [read, withoutComments, opened, others, Except.toOption]
  | cons b rest ih =>
    intro assembly other offset position alike
    obtain ⟨pos, depth, deepest, items, loops⟩ := (forgetOffsets_eq_iff _ _).mp alike
    -- Symbols are read by both, and comments only by the first.
    rcases symbol_cases b with rfl | rfl | ⟨action, rfl⟩ | comment
    · simp only [withoutComments, List.filter_cons, isSymbol_loop, if_true, read_loop]
      refine ih _ _ _ _ ?_
      rw [forgetOffsets_eq_iff]
      simp [openLoop, pos, depth, deepest, items, loops]
    · simp only [withoutComments, List.filter_cons, isSymbol_loopEnd, if_true]
      cases opened : assembly.loops with
      | nil =>
        have none : other.loops = [] := by simpa [opened] using loops.symm
        simp [read_loopEnd_of_none opened, read_loopEnd_of_none none, Except.toOption]
      | cons innermost outer =>
        cases others : other.loops with
        | nil => simp [opened, others] at loops
        | cons first more =>
          -- The loops that are closed differ in their offsets at most.
          simp only [opened, others, List.map_cons, List.cons.injEq, OpenLoop.mk.injEq] at loops
          rw [read_loopEnd_of_cons opened, read_loopEnd_of_cons others]
          refine ih _ _ _ _ ?_
          rw [forgetOffsets_eq_iff]
          simp [closed, pos, depth, deepest, items, loops]
    · simp only [withoutComments, List.filter_cons, isSymbol_symbol, if_true, read_op]
      refine ih _ _ _ _ ?_
      rw [forgetOffsets_eq_iff]
      simp [addOp, pos, depth, deepest, items, loops]
    · rw [read_comment assembly offset comment]
      simpa [withoutComments, List.filter_cons, comment] using ih _ _ (offset + 1) position alike

end Assembly

namespace Item

/-- The symbols of an instruction alone. -/
def listing (item : Item) : Bytes := (item.before .done).listing

/-- An instruction is listed in front of what follows it. -/
theorem listing_before (item : Item) (rest : Code) :
    (item.before rest).listing = item.listing ++ rest.listing := by
  cases item <;> simp [before, listing]

/-- Instructions are listed in front of the code that they are put before. -/
theorem listing_foldl_before (latestFirst : List Item) :
    ∀ code : Code, (latestFirst.foldl before code).listing =
      latestFirst.reverse.flatMap listing ++ code.listing := by
  -- The code collects the instructions from the last one to the first.
  induction latestFirst with
  | nil => intro code; simp
  | cons item earlier ih => intro code; simp [ih, listing_before]

/-- A sequence is listed in the order in which its instructions were read. -/
@[simp] theorem listing_sequence (latestFirst : List Item) :
    (sequence latestFirst).listing = latestFirst.reverse.flatMap listing := by
  simpa [sequence] using listing_foldl_before latestFirst .done

/-- The instructions of a sequence, each with the body of a loop inside it. -/
def ofCode : Code → List Item
  | .done => []
  | .op pos action rest => .op pos action :: ofCode rest
  | .loop pos body rest => .loop pos body :: ofCode rest

/-- Instructions in the order of their listing make up the sequence that they were taken from. -/
theorem foldr_ofCode (code : Code) :
    (ofCode code).foldr (fun item rest => item.before rest) .done = code := by
  -- Only the sequence itself is taken apart; bodies of loops stay whole.
  induction code with
  | done => rfl
  | op pos action rest ih => rw [ofCode, List.foldr_cons, ih, before]
  | loop pos body rest _ ih => rw [ofCode, List.foldr_cons, ih, before]

/-- Instructions that were read in the order of their listing make up their sequence. -/
@[simp] theorem sequence_ofCode_reverse (code : Code) : sequence (ofCode code).reverse = code := by
  rw [sequence, List.foldl_reverse, foldr_ofCode]

end Item

namespace Assembly

/-- The symbols that have been read, those of open loops included. -/
def printed (assembly : Assembly) : Bytes :=
  assembly.loops.foldr
    (fun loop before => before ++ loop.outer.reverse.flatMap Item.listing ++ [Opcode.loop.symbol])
    [] ++ assembly.items.reverse.flatMap Item.listing

/-- The source without its comments is printed behind what has been read before. -/
theorem read_printed (source : Bytes) :
    ∀ (assembly : Assembly) (offset : Nat) (result : Assembly),
      assembly.read offset source = .ok result →
        result.loops = [] ∧ result.printed = assembly.printed ++ withoutComments source := by
  -- Each symbol is printed in the place where it is read, whatever happens around it.
  induction source with
  | nil =>
    intro assembly offset result found
    cases opened : assembly.loops with
    | nil =>
      simp only [read, opened, Except.ok.injEq] at found
      subst found
      exact ⟨opened, by simp [withoutComments]⟩
    | cons innermost outer => simp [read, opened] at found
  | cons b rest ih =>
    intro assembly offset result found
    rcases symbol_cases b with rfl | rfl | ⟨action, rfl⟩ | comment
    · rw [read_loop] at found
      obtain ⟨all, shown⟩ := ih _ _ _ found
      exact ⟨all, by rw [shown]; simp [printed, openLoop, withoutComments]⟩
    · cases opened : assembly.loops with
      | nil => simp [read_loopEnd_of_none opened] at found
      | cons innermost outer =>
        rw [read_loopEnd_of_cons opened] at found
        obtain ⟨all, shown⟩ := ih _ _ _ found
        -- The bracket closes the listing of the loop that now counts as one instruction.
        refine ⟨all, ?_⟩
        rw [shown]
        simp [printed, closed, opened, withoutComments, Item.listing, Item.before]
    · rw [read_op] at found
      obtain ⟨all, shown⟩ := ih _ _ _ found
      refine ⟨all, ?_⟩
      rw [shown]
      simp [printed, addOp, withoutComments, Item.listing, Item.before]
    · rw [read_comment assembly offset comment] at found
      obtain ⟨all, shown⟩ := ih _ _ _ found
      exact ⟨all, by simp [shown, withoutComments, comment]⟩

/-- The assembly behind a listing of code. -/
def extend (assembly : Assembly) (code : Code) : Assembly where
  pos := assembly.pos + code.size
  depth := assembly.depth
  maxDepth := max assembly.maxDepth (assembly.depth + code.nesting)
  items := (Item.ofCode (code.numberedFrom assembly.pos)).reverse ++ assembly.items
  loops := assembly.loops

/-- A listing is read as the code that it lists, with positions that go on from those before. -/
theorem read_listing (code : Code) :
    ∀ (assembly : Assembly) (offset : Nat) (behind : Bytes),
      assembly.depth ≤ assembly.maxDepth →
      assembly.read offset (code.listing ++ behind) =
        (assembly.extend code).read (offset + code.size) behind := by
  -- The induction is on the tree, so that a body is read before its closing bracket.
  induction code with
  | done =>
    intro assembly offset behind deepest
    have same : assembly.extend .done = assembly := by
      simp [extend, Code.size, Code.nesting, Code.numberedFrom, Item.ofCode,
        Nat.max_eq_left deepest]
    simp [same, Code.size]
  | op pos action rest ih =>
    intro assembly offset behind deepest
    rw [Code.listing_op, List.cons_append, read_op, ih (assembly.addOp action) _ _ deepest]
    have same : (assembly.addOp action).extend rest = assembly.extend (.op pos action rest) := by
      simp [extend, addOp, Code.size, Code.nesting, Code.numberedFrom, Item.ofCode]
      omega
    rw [same, Code.size, Nat.add_assoc, Nat.add_comm 1]
  | loop pos body rest bodyIh restIh =>
    intro assembly offset behind deepest
    simp only [Code.listing_loop, List.cons_append, List.append_assoc]
    rw [read_loop, bodyIh _ _ _ (by simp only [openLoop]; omega)]
    -- Behind the body the loop that was opened in front of it is the innermost one.
    have opened : ((assembly.openLoop offset).extend body).loops =
        ⟨offset, assembly.pos, assembly.items⟩ :: assembly.loops := rfl
    rw [read_loopEnd_of_cons opened]
    rw [restIh _ _ _ (by simp only [closed, extend, openLoop]; omega)]
    have same : (((assembly.openLoop offset).extend body).closed
        ⟨offset, assembly.pos, assembly.items⟩ assembly.loops).extend rest =
          assembly.extend (.loop pos body rest) := by
      simp only [extend, closed, openLoop, Code.size, Code.nesting, Code.numberedFrom, Item.ofCode,
        List.append_nil, Item.sequence_ofCode_reverse, List.reverse_cons, List.append_assoc,
        List.singleton_append, Assembly.mk.injEq, and_true]
      refine ⟨by omega, by omega, by omega, ?_⟩
      rw [show assembly.pos + 1 + body.size + 1 = assembly.pos + body.size + 2 by omega]
    rw [same, Code.size]
    congr 1
    omega

end Assembly

/-- The listing of a program is its source without comments. -/
theorem listing_of_compile {source : Bytes} {program : Program}
    (compiled : compile source = .ok program) : program.listing = withoutComments source := by
  -- Once every loop is closed, everything printed belongs to the outermost sequence.
  unfold compile at compiled
  cases result : Assembly.start.read 0 source with
  | error fault => simp [result] at compiled
  | ok assembly =>
    simp only [result, Except.ok.injEq] at compiled
    obtain ⟨all, shown⟩ := Assembly.read_printed source _ _ _ result
    subst compiled
    simpa [Assembly.printed, all, Assembly.start, Assembly.program, Program.listing] using shown

/-- Comments do not change whether a source compiles and to what. -/
theorem compile_withoutComments (source : Bytes) :
    (compile (withoutComments source)).toOption = (compile source).toOption := by
  -- Only errors depend on offsets.
  have same := Assembly.read_withoutComments source .start .start 0 0 rfl
  unfold compile
  cases whole : Assembly.start.read 0 source <;>
    cases bare : Assembly.start.read 0 (withoutComments source) <;>
    simp_all [Except.toOption]

/-- A successful compilation is told from its optional result. -/
theorem compile_eq_ok_iff (source : Bytes) (program : Program) :
    compile source = .ok program ↔ (compile source).toOption = some program := by
  cases compile source <;> simp [Except.toOption]

/-- Sources that differ only in comments compile to the same program. -/
theorem compile_congr {source other : Bytes}
    (alike : withoutComments source = withoutComments other) {program : Program}
    (compiled : compile source = .ok program) : compile other = .ok program := by
  rw [compile_eq_ok_iff] at compiled ⊢
  rw [← compile_withoutComments, ← alike, compile_withoutComments, compiled]

/-- Removing comments a second time removes nothing. -/
@[simp] theorem withoutComments_withoutComments (source : Bytes) :
    withoutComments (withoutComments source) = withoutComments source := by
  simp [withoutComments]

/-- The listing of any code compiles to that code, numbered from the start. -/
theorem compile_listing (code : Code) :
    compile code.listing = .ok ⟨code.numberedFrom 0, code.size, code.nesting⟩ := by
  have result := Assembly.read_listing code .start 0 [] (Nat.le_refl _)
  rw [List.append_nil] at result
  rw [compile, result]
  simp [Assembly.read, Assembly.extend, Assembly.start, Assembly.program]

/-- A compiled program is what its own listing compiles to. -/
theorem compile_listing_of_compile {source : Bytes} {program : Program}
    (compiled : compile source = .ok program) : compile program.listing = .ok program := by
  refine compile_congr ?_ compiled
  rw [listing_of_compile compiled, withoutComments_withoutComments]

/-- Compiled programs are numbered from the start, and their length and depth are exact. -/
theorem program_of_compile {source : Bytes} {program : Program}
    (compiled : compile source = .ok program) :
    program.code.numberedFrom 0 = program.code ∧ program.length = program.code.size ∧
      program.maxDepth = program.code.nesting := by
  -- Compiling the listing gives the program itself and its numbered code.
  have again := compile_listing_of_compile compiled
  rw [Program.listing, compile_listing, Except.ok.injEq] at again
  rw [← again]
  simp [Code.numberedFrom_numberedFrom]

/-- Exactly the balanced sources compile. A program lists as its source without comments, its
listing compiles to the same program, and so does every source that differs only in comments. -/
theorem compile_balanced_lossless (source : Bytes) :
    ((∃ program, compile source = .ok program) ↔ Balanced source) ∧
      ∀ program, compile source = .ok program →
        program.listing = withoutComments source ∧
          compile program.listing = .ok program ∧
          ∀ other, withoutComments other = withoutComments source →
            compile other = .ok program := by
  refine ⟨?_, fun program compiled => ⟨listing_of_compile compiled,
    compile_listing_of_compile compiled, fun other alike => compile_congr alike.symm compiled⟩⟩
  -- Success is decided by the brackets that are read from a start without open loops.
  have accepted := Assembly.read_ok_iff_closes source .start 0
  rw [balanced_iff_closes]
  refine Iff.trans ?_ accepted
  unfold compile
  cases Assembly.start.read 0 source <;> simp

/-- A loop among comments is listed without them, and other comments give the same program. -/
theorem compile_balanced_lossless_loop :
    let program : Program := ⟨.loop 0 (.op 1 .decrement .done) (.op 3 .increment .done), 4, 1⟩
    Balanced (utf8 "a[-c]+") ∧ program.listing = utf8 "[-]+" ∧
      compile (utf8 "[-]+") = .ok program ∧ compile (utf8 "[ - ] + b") = .ok program := by
  intro program
  have compiled : compile (utf8 "a[-c]+") = .ok program := rfl
  obtain ⟨accepted, lossless⟩ := compile_balanced_lossless (utf8 "a[-c]+")
  obtain ⟨listed, again, others⟩ := lossless program compiled
  have bare : withoutComments (utf8 "a[-c]+") = utf8 "[-]+" := by decide +kernel
  rw [bare] at listed
  rw [listed] at again
  exact ⟨accepted.1 ⟨program, compiled⟩, listed, again, others _ (by decide +kernel)⟩

end TapeMachine
