import TapeMachine.Proofs.Program.Compile
import Mathlib.Data.List.Induction

/-! Brackets that match nothing: compilation fails at the first loop end without a loop, or else at
the last loop without an end, and says where that bracket stands. -/

namespace TapeMachine

/-- The brackets at two offsets belong together: what lies between them is balanced. -/
def Matching (source : Bytes) (start stop : Nat) : Prop :=
  ∃ before inner after, source = before ++ Opcode.loop.symbol :: (inner ++ loopEnd :: after) ∧
    before.length = start ∧ before.length + inner.length + 1 = stop ∧ Balanced inner

/-- The loop end at an offset has no loop. -/
def Unopened (source : Bytes) (stop : Nat) : Prop :=
  source[stop]? = some loopEnd ∧ ∀ start, ¬ Matching source start stop

/-- The loop at an offset has no end. -/
def Unclosed (source : Bytes) (start : Nat) : Prop :=
  source[start]? = some Opcode.loop.symbol ∧ ∀ stop, ¬ Matching source start stop

/-- The line that holds an offset starts right behind the last line feed before it. -/
structure LineStart (source : Bytes) (offset start : Nat) : Prop where
  before : start ≤ offset
  behind : start = 0 ∨ ∃ last, start = last + 1 ∧ source[last]? = some newline
  within : ∀ place, start ≤ place → place < offset → source[place]? ≠ some newline

/-- A part of a balanced source may be left out of the account of open loops. -/
theorem closes_append {part : Bytes} (balanced : Balanced part) (depth : Nat) (rest : Bytes) :
    Closes depth (part ++ rest) ↔ Closes depth rest := by
  obtain ⟨parts, same⟩ := balanced
  simp only [Closes, List.count_append]
  constructor
  · rintro ⟨all, total⟩
    refine ⟨fun piece inside => ?_, by omega⟩
    -- The balanced part in front takes nothing from the loops that are open.
    have whole := all (part ++ piece) ((List.prefix_append_right_inj part).mpr inside)
    simp only [List.count_append] at whole
    omega
  · rintro ⟨all, total⟩
    refine ⟨fun piece inside => ?_, by omega⟩
    -- A piece ends inside the balanced part or behind it.
    obtain ⟨left, cut⟩ := inside
    rcases List.append_eq_append_iff.mp cut with ⟨more, rfl, -⟩ | ⟨tail, rfl, rfl⟩
    · have := parts piece (List.prefix_append piece more)
      omega
    · have := all tail (List.prefix_append tail left)
      simp only [List.count_append]
      omega

/-- No brackets at all are balanced. -/
theorem balanced_nil : Balanced [] := by
  simp [balanced_iff_closes]

/-- A byte that is no bracket does not change the balance. -/
theorem balanced_append_other {part : Bytes} (balanced : Balanced part) {b : UInt8}
    (loop : b ≠ Opcode.loop.symbol) (stop : b ≠ loopEnd) : Balanced (part ++ [b]) := by
  rw [balanced_iff_closes, closes_append balanced, closes_other loop stop, closes_nil]

/-- A loop with a balanced body does not change the balance. -/
theorem balanced_append_loop {outer inner : Bytes} (around : Balanced outer)
    (inside : Balanced inner) :
    Balanced (outer ++ Opcode.loop.symbol :: inner ++ [loopEnd]) := by
  rw [balanced_iff_closes, List.append_assoc, closes_append around, List.cons_append, closes_loop,
    closes_append inside, closes_loopEnd, closes_nil]

namespace Code

/-- Listed code leaves as many loops open as there were before. -/
theorem closes_listing (code : Code) :
    ∀ depth behind, Closes depth (code.listing ++ behind) ↔ Closes depth behind := by
  -- A loop opens one more, and its end closes it again behind the body.
  induction code with
  | done => exact fun _ _ => .rfl
  | op pos action rest ih =>
    intro depth behind
    rw [listing_op, List.cons_append, closes_other action.symbol_ne_loop action.symbol_ne_loopEnd,
      ih]
  | loop pos body rest bodyIh restIh =>
    intro depth behind
    rw [listing_loop, List.cons_append, closes_loop, List.append_assoc, bodyIh, List.cons_append,
      closes_loopEnd, restIh]

/-- The brackets of a listing are balanced. -/
theorem balanced_listing (code : Code) : Balanced code.listing := by
  rw [balanced_iff_closes, ← code.listing.append_nil, closes_listing, closes_nil]

end Code

/-- The loops that are open behind a part of a source, by the offsets of their brackets, innermost
first: behind each bracket comes a balanced part. -/
inductive OpenAt : Bytes → List Nat → Prop
  /-- No loop is open. -/
  | outside {part : Bytes} (balanced : Balanced part) : OpenAt part []
  /-- One more loop is open. -/
  | inside {outer inner : Bytes} {offsets : List Nat} (around : OpenAt outer offsets)
      (balanced : Balanced inner) :
      OpenAt (outer ++ Opcode.loop.symbol :: inner) (outer.length :: offsets)

/-- What has been read: each loop end has its loop, and each loop has its end or is still open. -/
structure Nested (part : Bytes) (offsets : List Nat) : Prop where
  opened : OpenAt part offsets
  ends : ∀ stop, part[stop]? = some loopEnd → ∃ start, Matching part start stop
  starts : ∀ start, part[start]? = some Opcode.loop.symbol →
    start ∈ offsets ∨ ∃ stop, Matching part start stop

namespace Matching

/-- Brackets that match go on to match with more text behind them. -/
theorem append {part : Bytes} {start stop : Nat} (matching : Matching part start stop)
    (rest : Bytes) : Matching (part ++ rest) start stop := by
  obtain ⟨before, inner, after, rfl, first, last, balanced⟩ := matching
  exact ⟨before, inner, after ++ rest, by simp, first, last, balanced⟩

/-- A loop end behind a balanced part has no loop. -/
theorem not_behind_balanced {part : Bytes} (balanced : Balanced part) (rest : Bytes)
    (start : Nat) : ¬ Matching (part ++ loopEnd :: rest) start part.length := by
  rintro ⟨before, inner, after, same, -, last, inside⟩
  -- The loop and its body would end the balanced part, and what comes before it closes too much.
  have cut : part = before ++ Opcode.loop.symbol :: inner := by
    have lengths : part.length = (before ++ Opcode.loop.symbol :: inner).length := by
      simp only [List.length_append, List.length_cons]
      omega
    have regrouped : before ++ Opcode.loop.symbol :: (inner ++ loopEnd :: after) =
        (before ++ Opcode.loop.symbol :: inner) ++ loopEnd :: after := by simp
    rw [regrouped] at same
    exact (List.append_inj same lengths).1
  have early := balanced.1 before (by rw [cut]; exact List.prefix_append _ _)
  have whole := balanced.2
  have within := inside.2
  rw [cut] at whole
  simp only [List.count_append, List.count_cons_self, List.count_cons_of_ne loop_ne_loopEnd]
    at whole
  omega

/-- A loop with nothing but a balanced part behind it has no end. -/
theorem not_before_balanced {inner : Bytes} (balanced : Balanced inner) (outer : Bytes)
    (stop : Nat) : ¬ Matching (outer ++ Opcode.loop.symbol :: inner) outer.length stop := by
  rintro ⟨before, body, after, same, first, -, inside⟩
  obtain ⟨rfl, behind⟩ := List.append_inj same first.symm
  obtain ⟨-, rfl⟩ := List.cons.inj behind
  -- The balanced part would begin with a balanced body and a loop end.
  have early := balanced.1 (body ++ [loopEnd]) ⟨after, by simp⟩
  have within := inside.2
  simp only [List.count_append, List.count_cons_self, List.count_cons_of_ne loopEnd_ne_loop,
    List.count_nil] at early
  omega

end Matching

namespace OpenAt

/-- A bracket that is open lies inside the text. -/
theorem lt_length {part : Bytes} {offsets : List Nat} (opened : OpenAt part offsets) :
    ∀ offset ∈ offsets, offset < part.length := by
  induction opened with
  | outside => simp
  | inside _ _ ih =>
    intro offset member
    simp only [List.length_append, List.length_cons]
    rcases List.mem_cons.mp member with rfl | outer
    · omega
    · have := ih offset outer
      omega

/-- Other text opens and closes nothing. -/
theorem other {part : Bytes} {offsets : List Nat} (opened : OpenAt part offsets) {b : UInt8}
    (loop : b ≠ Opcode.loop.symbol) (stop : b ≠ loopEnd) : OpenAt (part ++ [b]) offsets := by
  cases opened with
  | outside balanced => exact .outside (balanced_append_other balanced loop stop)
  | inside around balanced =>
    have longer := inside around (balanced_append_other balanced loop stop)
    simpa using longer

/-- A loop that is closed joins the balanced part around it. -/
theorem close {part : Bytes} {offset : Nat} {offsets : List Nat}
    (opened : OpenAt part (offset :: offsets)) :
    OpenAt (part ++ [loopEnd]) offsets ∧ Matching (part ++ [loopEnd]) offset part.length := by
  cases opened with
  | @inside outer inner _ around balanced =>
    refine ⟨?_, outer, inner, [], by simp, rfl, by simp; omega, balanced⟩
    cases around with
    | outside before => exact .outside (balanced_append_loop before balanced)
    | inside around before =>
      have longer := inside around (balanced_append_loop before balanced)
      simpa using longer

end OpenAt

namespace Nested

variable {part : Bytes} {offsets : List Nat}

/-- At the beginning nothing is open. -/
theorem nil : Nested [] [] where
  opened := .outside balanced_nil
  ends := by simp
  starts := by simp

/-- What is said of the symbols of a part is said of one more byte, too. -/
theorem snoc (nested : Nested part offsets) {b : UInt8} {still : List Nat}
    (opened : OpenAt (part ++ [b]) still)
    (last : b = loopEnd → ∃ start, Matching (part ++ [b]) start part.length)
    (first : b = Opcode.loop.symbol → part.length ∈ still)
    (kept : ∀ offset ∈ offsets, offset ∈ still ∨ ∃ stop, Matching (part ++ [b]) offset stop) :
    Nested (part ++ [b]) still where
  opened := opened
  ends stop here := by
    -- The symbol is the new one, or it has its loop already.
    rcases Nat.lt_trichotomy stop part.length with inside | rfl | outside
    · rw [List.getElem?_append_left inside] at here
      obtain ⟨start, matching⟩ := nested.ends stop here
      exact ⟨start, matching.append [b]⟩
    · simp only [List.getElem?_concat_length, Option.some.injEq] at here
      exact last here
    · have nothing : (part ++ [b])[stop]? = none := List.getElem?_eq_none (by simp; omega)
      rw [nothing] at here
      cases here
  starts start here := by
    rcases Nat.lt_trichotomy start part.length with inside | rfl | outside
    · rw [List.getElem?_append_left inside] at here
      rcases nested.starts start here with member | ⟨stop, matching⟩
      · exact kept start member
      · exact .inr ⟨stop, matching.append [b]⟩
    · simp only [List.getElem?_concat_length, Option.some.injEq] at here
      exact .inl (first here)
    · have nothing : (part ++ [b])[start]? = none := List.getElem?_eq_none (by simp; omega)
      rw [nothing] at here
      cases here

/-- Other text leaves the open brackets as they are. -/
theorem other (nested : Nested part offsets) {b : UInt8} (loop : b ≠ Opcode.loop.symbol)
    (stop : b ≠ loopEnd) : Nested (part ++ [b]) offsets :=
  nested.snoc (nested.opened.other loop stop) (fun same => absurd same stop)
    (fun same => absurd same loop) fun _ member => .inl member

/-- An opening bracket is the innermost one from then on. -/
theorem loop (nested : Nested part offsets) :
    Nested (part ++ [Opcode.loop.symbol]) (part.length :: offsets) :=
  nested.snoc (.inside nested.opened balanced_nil) (fun same => absurd same loop_ne_loopEnd)
    (fun _ => List.mem_cons_self) fun _ member => .inl (List.mem_cons_of_mem _ member)

/-- A closing bracket closes the innermost one. -/
theorem closed {offset : Nat} (nested : Nested part (offset :: offsets)) :
    Nested (part ++ [loopEnd]) offsets := by
  obtain ⟨opened, matching⟩ := nested.opened.close
  refine nested.snoc opened (fun _ => ⟨offset, matching⟩)
    (fun same => absurd same loopEnd_ne_loop) fun other member => ?_
  rcases List.mem_cons.mp member with rfl | outer
  · exact .inr ⟨_, matching⟩
  · exact .inl outer

end Nested

/-- The offset of the bracket that a fault is about. -/
def BracketFault.At (source : Bytes) (offset : Nat) : BracketFault → Prop
  | .tooClosed => Unopened source offset ∧ ∀ stop, Unopened source stop → offset ≤ stop
  | .unclosed => (∀ stop, ¬ Unopened source stop) ∧ Unclosed source offset ∧
      ∀ start, Unclosed source start → start ≤ offset

/-- A loop end that is read while no loop is open is the first one without a loop. -/
theorem Nested.tooClosed {part : Bytes} (nested : Nested part []) (rest : Bytes) :
    BracketFault.At (part ++ loopEnd :: rest) part.length .tooClosed := by
  have balanced : Balanced part := by
    cases nested.opened with
    | outside balanced => exact balanced
  refine ⟨⟨by simp, Matching.not_behind_balanced balanced rest⟩, fun stop unopened => ?_⟩
  -- A loop end that has been read before has its loop.
  refine Nat.le_of_not_lt fun early => ?_
  obtain ⟨here, alone⟩ := unopened
  rw [List.getElem?_append_left early] at here
  obtain ⟨start, matching⟩ := nested.ends stop here
  exact alone start (matching.append _)

/-- The innermost loop that is open at the end is the last one without an end. -/
theorem Nested.unclosed {source : Bytes} {offset : Nat} {offsets : List Nat}
    (nested : Nested source (offset :: offsets)) :
    BracketFault.At source offset .unclosed := by
  refine ⟨fun stop unopened => ?_, ?_, fun start unclosed => ?_⟩
  · obtain ⟨start, matching⟩ := nested.ends stop unopened.1
    exact unopened.2 start matching
  · cases nested.opened with
    | @inside outer inner _ around balanced =>
      exact ⟨by simp, Matching.not_before_balanced balanced outer⟩
  · -- The other open loops lie around the innermost one.
    rcases nested.starts start unclosed.1 with member | ⟨stop, matching⟩
    · cases nested.opened with
      | inside around balanced =>
        rcases List.mem_cons.mp member with rfl | outer
        · exact Nat.le_refl _
        · exact Nat.le_of_lt (around.lt_length start outer)
    · exact absurd matching (unclosed.2 stop)

/-- Reading fails at the bracket that the fault is about. -/
theorem Assembly.at_of_read_error (rest : Bytes) :
    ∀ (assembly : Assembly) (part : Bytes) (fault : BracketFault) (offset : Nat),
      Nested part (assembly.loops.map (·.offset)) →
      assembly.read part.length rest = .error (fault, offset) → fault.At (part ++ rest) offset := by
  -- The bytes that are read join the part before them, and the stack of open loops goes with them.
  induction rest with
  | nil =>
    intro assembly part fault offset nested failed
    cases opened : assembly.loops with
    | nil => simp [read, opened] at failed
    | cons innermost outer =>
      simp only [read, opened, Except.error.injEq, Prod.mk.injEq] at failed
      obtain ⟨rfl, rfl⟩ := failed
      rw [opened] at nested
      rw [List.append_nil]
      exact nested.unclosed
  | cons b rest ih =>
    intro assembly part fault offset nested failed
    have next (assembly : Assembly) (nested : Nested (part ++ [b]) (assembly.loops.map (·.offset)))
        (failed : assembly.read (part.length + 1) rest = .error (fault, offset)) :
        fault.At (part ++ b :: rest) offset := by
      rw [List.append_cons]
      exact ih assembly (part ++ [b]) fault offset nested (by simpa using failed)
    rcases symbol_cases b with rfl | rfl | ⟨action, rfl⟩ | comment
    · rw [read_loop] at failed
      exact next (assembly.openLoop part.length) nested.loop failed
    · cases opened : assembly.loops with
      | nil =>
        rw [read_loopEnd_of_none opened] at failed
        cases failed
        rw [opened] at nested
        exact nested.tooClosed rest
      | cons innermost outer =>
        rw [read_loopEnd_of_cons opened] at failed
        rw [opened] at nested
        exact next (assembly.closed innermost outer) nested.closed failed
    · rw [read_op] at failed
      exact next (assembly.addOp action)
        (nested.other action.symbol_ne_loop action.symbol_ne_loopEnd) failed
    · rw [read_comment assembly _ comment] at failed
      exact next assembly
        (nested.other (ne_loop_of_comment comment) (ne_loopEnd_of_comment comment)) failed

namespace CompileError

/-- A line end begins another line, and any other byte is one more column. -/
theorem location_concat (before : Bytes) (b : UInt8) :
    location (before ++ [b]) =
      if b = newline then ((location before).1 + 1, 1)
      else ((location before).1, (location before).2 + 1) := by
  rw [location, List.foldl_append]
  rfl

/-- Lines are counted by their line feeds, and columns from the start of the line. -/
theorem exists_lineStart (before : Bytes) :
    (location before).1 = 1 + before.count newline ∧
      ∃ start, LineStart before before.length start ∧
        (location before).2 = before.length - start + 1 := by
  -- The induction takes the last byte off: a line feed starts a line, any other byte goes on.
  induction before using List.reverseRecOn with
  | nil =>
    refine ⟨rfl, 0, ⟨Nat.le_refl _, .inl rfl, ?_⟩, rfl⟩
    intro place _ early
    exact absurd early (Nat.not_lt_zero place)
  | append_singleton before b ih =>
    obtain ⟨line, start, begins, column⟩ := ih
    rw [location_concat, List.length_append, List.length_singleton, List.count_append]
    by_cases feed : b = newline
    · subst feed
      refine ⟨by simp [line]; omega, before.length + 1, ?_, by simp⟩
      exact ⟨Nat.le_refl _, .inr ⟨before.length, rfl, by simp⟩, fun _ _ _ => by omega⟩
    · refine ⟨by simp [feed, line], start, ?_, ?_⟩
      · refine ⟨Nat.le_succ_of_le begins.before, begins.behind.imp_right ?_, ?_⟩
        · rintro ⟨last, rfl, here⟩
          refine ⟨last, rfl, ?_⟩
          have := begins.before
          rwa [List.getElem?_append_left (by omega)]
        · intro place first last
          rcases Nat.lt_or_ge place before.length with inside | final
          · rw [List.getElem?_append_left inside]
            exact begins.within place first inside
          · obtain rfl : place = before.length := by omega
            simpa using feed
      · have := begins.before
        simp only [feed, if_false, column]
        omega

end CompileError

/-- A line starts in the whole source where it starts in the part up to the offset. -/
theorem LineStart.of_take {source : Bytes} {offset start : Nat} (inside : offset ≤ source.length)
    (begins : LineStart (source.take offset) (source.take offset).length start) :
    LineStart source offset start := by
  obtain ⟨before, behind, within⟩ := begins
  rw [List.length_take, Nat.min_eq_left inside] at before within
  refine ⟨before, behind.imp_right ?_, fun place first last => ?_⟩
  · rintro ⟨last, rfl, here⟩
    exact ⟨last, rfl, by rwa [List.getElem?_take_of_lt (by omega)] at here⟩
  · have := within place first last
    rwa [List.getElem?_take_of_lt last] at this

/-- Errors point at the right bracket. A source that is not balanced fails to compile at its first
loop end without a loop, or, if every loop end has its loop, at its last loop without an end. The
error tells the line, which is one more than the number of line feeds before the bracket, and the
column, counted from one behind the last of them. -/
theorem compile_error_at_bracket (source : Bytes) (unbalanced : ¬ Balanced source) :
    ∃ error, compile source = .error error ∧
      ((∃ stop, Unopened source stop) → error.fault = .tooClosed ∧
        Unopened source error.offset ∧ ∀ stop, Unopened source stop → error.offset ≤ stop) ∧
      ((¬ ∃ stop, Unopened source stop) → error.fault = .unclosed ∧
        Unclosed source error.offset ∧ ∀ start, Unclosed source start → start ≤ error.offset) ∧
      error.line = 1 + (source.take error.offset).count newline ∧
      ∃ start, LineStart source error.offset start ∧ error.column = error.offset - start + 1 := by
  -- Reading cannot succeed, so it fails with a fault and an offset.
  have rejected := mt (Assembly.read_ok_iff_closes source .start 0).mp
    (mt (balanced_iff_closes source).mpr unbalanced)
  cases result : Assembly.start.read 0 source with
  | ok assembly => exact absurd ⟨assembly, result⟩ rejected
  | error failure =>
    obtain ⟨fault, offset⟩ := failure
    have found : fault.At source offset :=
      Assembly.start.at_of_read_error source [] fault offset Nested.nil result
    have inside : offset ≤ source.length := by
      have here : source[offset]? ≠ none := by
        cases fault with
        | tooClosed => simp [found.1.1]
        | unclosed => simp [found.2.1.1]
      rw [ne_eq, List.getElem?_eq_none_iff] at here
      omega
    obtain ⟨line, start, begins, column⟩ := CompileError.exists_lineStart (source.take offset)
    refine ⟨.ofOffset fault source offset, by simp [compile, result], ?_, ?_, line, start,
      begins.of_take inside, ?_⟩
    · rintro ⟨stop, unopened⟩
      cases fault with
      | tooClosed => exact ⟨rfl, found⟩
      | unclosed => exact absurd unopened (found.1 stop)
    · intro none
      cases fault with
      | tooClosed => exact absurd ⟨offset, found.1⟩ none
      | unclosed => exact ⟨rfl, found.2⟩
    · rw [List.length_take, Nat.min_eq_left inside] at column
      exact column

/-- The second loop end of the second line has no loop, and the loop behind it has no end: the error
is about the first of them. -/
theorem compile_error_at_bracket_second_line :
    let source := utf8 "[\n]]["
    ¬ Balanced source ∧ compile source = .error ⟨.tooClosed, 3, 2, 2⟩ ∧ Unopened source 3 ∧
      ∀ stop, Unopened source stop → 3 ≤ stop := by
  intro source
  have unbalanced : ¬ Balanced source := fun balanced =>
    absurd (balanced.1 (utf8 "[\n]]") (by decide +kernel)) (by decide +kernel)
  have failed : compile source = .error ⟨.tooClosed, 3, 2, 2⟩ := rfl
  obtain ⟨error, found, first, last, -⟩ := compile_error_at_bracket source unbalanced
  obtain rfl : error = ⟨.tooClosed, 3, 2, 2⟩ := Except.error.inj (found.symm.trans failed)
  refine ⟨unbalanced, failed, ?_⟩
  by_cases surplus : ∃ stop, Unopened source stop
  · exact (first surplus).2
  · exact nomatch (last surplus).1

end TapeMachine
