import TapeMachine.Proofs.Machine.Shift

/-! No run leaves the tape or the listing: every access that could go wrong is in range. -/

namespace TapeMachine

namespace Tape

/-- The current cell, if the pointer is on the tape. -/
def cell? (tape : Tape) : Option UInt8 := tape.cells[tape.pointer]?

/-- Changes the current cell, if the pointer is on the tape. -/
def write? (tape : Tape) (value : UInt8) : Option Tape :=
  if inside : tape.pointer < tape.cells.size then
    some { tape with cells := tape.cells.set tape.pointer value inside }
  else none

end Tape

/-- The bytes between two bounds, if the bounds are in order and inside. -/
def slice? (bytes : Array UInt8) (start stop : Nat) : Option Bytes :=
  if start ≤ stop ∧ stop ≤ bytes.size then some (bytes.extract start stop).toList else none

namespace Console

/-- The starts of the rows that begin inside `size` bytes, up to the first that does not. -/
def rowStarts (rows columns first size : Nat) : List Nat :=
  ((List.range rows).map fun row => first + row * columns).takeWhile fun start => start < size

/-- A code listing whose rows are cut out between checked bounds. -/
def codeListing? (listing : Array UInt8) (pos : Nat) : Option (List Bytes) :=
  (rowStarts codeRows codeColumns pos listing.size).mapM fun start =>
    slice? listing start (min (start + codeColumns) listing.size)

/-- A memory dump whose rows are cut out between checked bounds. -/
def memoryDump? (tape : Tape) : Option (List Bytes) :=
  (rowStarts memoryRows memoryColumns (memoryBase tape) tape.length).mapM fun start =>
    (slice? tape.cells start (min (start + memoryColumns) tape.length)).map (memoryRow start)

/-- In rows of growing addresses, those up to the first outside are all those inside. -/
theorem rowStarts_eq (rows columns first size : Nat) :
    rowStarts rows columns first size =
      ((List.range rows).map fun row => first + row * columns).filter fun start =>
        start < size := by
  have general : ∀ starts : List Nat, starts.Pairwise (· ≤ ·) →
      (starts.takeWhile fun start => start < size) = starts.filter fun start => start < size := by
    intro starts
    induction starts with
    | nil => intro _; rfl
    | cons start later ih =>
      intro sorted
      obtain ⟨least, sorted⟩ := List.pairwise_cons.mp sorted
      by_cases inside : start < size
      · simp [inside, ih sorted]
      · -- No later row starts before this one.
        have none : (later.filter fun start => start < size) = [] := by
          rw [List.filter_eq_nil_iff]
          intro other member
          have := least other member
          simp only [decide_eq_true_eq]
          omega
        simp [inside, none]
  -- The starts of rows grow with their number.
  refine general _ ?_
  rw [List.pairwise_map]
  refine List.Pairwise.imp ?_ List.pairwise_lt_range
  intro row other before
  exact Nat.add_le_add_left (Nat.mul_le_mul_right _ (Nat.le_of_lt before)) _

/-- Rows that can all be cut out are cut out together. -/
theorem mapM_of_forall {starts : List Nat} {cut : Nat → Option Bytes} {row : Nat → Bytes}
    (each : ∀ start ∈ starts, cut start = some (row start)) :
    starts.mapM cut = some (starts.map row) := by
  induction starts with
  | nil => rfl
  | cons start later ih =>
    rw [List.mapM_cons, each start (by simp), ih fun other member => each other (by simp [member])]
    rfl

/-- A row that starts inside can be cut out. -/
theorem slice?_of_lt {bytes : Array UInt8} {start : Nat} (inside : start < bytes.size)
    (columns : Nat) :
    slice? bytes start (min (start + columns) bytes.size) =
      some (bytes.extract start (start + columns)).toList := by
  rw [slice?, if_pos (by omega)]
  -- An upper bound behind the end cuts nothing more out.
  rw [Array.toList_extract, Array.toList_extract, List.extract_eq_take_drop,
    List.extract_eq_take_drop, Option.some.injEq, List.take_eq_take_iff]
  simp only [List.length_drop, Array.length_toList]
  omega

/-- Rows that start inside are kept, each with its bytes. -/
theorem filterMap_rows (rows columns first size : Nat) (row : Nat → Bytes) :
    ((List.range rows).filterMap fun index =>
      if first + index * columns < size then some (row (first + index * columns)) else none) =
      (rowStarts rows columns first size).map row := by
  -- Both sides keep the rows that start inside, one by a test on each row.
  rw [rowStarts_eq, ← List.filterMap_eq_map, ← List.filterMap_eq_filter, List.filterMap_filterMap,
    List.filterMap_map]
  congr 1
  funext index
  by_cases inside : first + index * columns < size <;> simp [Option.guard, inside]

/-- The rows of a code listing are always in range. -/
theorem codeListing?_eq (listing : Array UInt8) (pos : Nat) :
    codeListing? listing pos = some (codeListing listing pos) := by
  rw [codeListing, filterMap_rows _ _ _ _ fun start =>
    (listing.extract start (start + codeColumns)).toList]
  -- Every row that is kept starts inside the listing.
  refine mapM_of_forall fun start member => ?_
  rw [rowStarts_eq] at member
  have inside : start < listing.size := of_decide_eq_true (List.mem_filter.mp member).2
  exact slice?_of_lt inside codeColumns

/-- The rows of a memory dump are always in range. -/
theorem memoryDump?_eq (tape : Tape) : memoryDump? tape = some (memoryDump tape) := by
  rw [memoryDump, filterMap_rows _ _ _ _ fun start =>
    memoryRow start (tape.window start memoryColumns)]
  refine mapM_of_forall fun start member => ?_
  rw [rowStarts_eq] at member
  have inside : start < tape.cells.size := of_decide_eq_true (List.mem_filter.mp member).2
  rw [Tape.length, slice?_of_lt inside memoryColumns]
  rfl

end Console

namespace Machine

/-- The instruction that the machine is in front of, with its place. -/
def next? (machine : Machine) : Option (Nat × Opcode) :=
  match machine.code with
  | .done => none
  | .op place action _ => some (place, .basic action)
  | .loop place _ _ => some (place, .loop)

/-- Every access of the machine is in range: the checked accesses succeed and give what the machine
uses, and the next instruction has an opcode that exists and a place inside the listing. -/
structure Guarded (machine : Machine) : Prop where
  cell : machine.tape.cell? = some machine.tape.cell
  write : ∀ value, machine.tape.write? value = some (machine.tape.write value)
  memory : Console.memoryDump? machine.tape = some (Console.memoryDump machine.tape)
  code : ∀ pos opcode, machine.next? = some (pos, opcode) →
    Console.codeListing? machine.listing pos = some (Console.codeListing machine.listing pos)
  place : ∀ pos opcode, machine.next? = some (pos, opcode) →
    machine.listing[pos]? = some opcode.symbol
  opcode : ∀ pos opcode, machine.next? = some (pos, opcode) →
    Opcode.ofCode? opcode.code.toUInt8 = some opcode

/-- The next instruction stands at its place in the listing. -/
theorem StandsAt.next {machine : Machine} {pos : Nat} (stands : machine.StandsAt pos)
    {place : Nat} {opcode : Opcode} (next : machine.next? = some (place, opcode)) :
    machine.listing[place]? = some opcode.symbol := by
  obtain ⟨lies, -⟩ := stands
  -- The code lies at its own position, so its first symbol is there.
  cases code : machine.code with
  | done => simp [next?, code] at next
  | op there action rest =>
    rw [code] at lies
    obtain ⟨rfl, here, -⟩ := lies
    simp only [next?, code, Option.some.injEq, Prod.mk.injEq] at next
    obtain ⟨rfl, rfl⟩ := next
    simpa [Opcode.symbol] using here
  | loop there body rest =>
    rw [code] at lies
    obtain ⟨rfl, here, -⟩ := lies
    simp only [next?, code, Option.some.injEq, Prod.mk.injEq] at next
    obtain ⟨rfl, rfl⟩ := next
    simpa using here

/-- A move takes the machine from one place of the listing to another. -/
theorem Shift.standsAt {before after : Machine} (shift : Shift before after)
    (listing : after.listing = before.listing) {pos : Nat} (stands : before.StandsAt pos) :
    ∃ next, after.StandsAt next := by
  cases shift with
  | rest code loops tape steps waiting =>
    refine ⟨pos, ?_⟩
    rw [StandsAt, code, listing, loops]
    exact stands
  | left code around behind tape steps status =>
    -- Behind its closing bracket lies what follows the loop.
    obtain ⟨-, enclosed⟩ := stands
    rw [code, around, Code.size, Nat.add_zero] at enclosed
    obtain ⟨start, -, -, -, -, lies, outside⟩ := enclosed
    refine ⟨pos + 1, ?_, ?_⟩
    · rw [behind, listing]
      exact lies
    · rw [behind, listing]
      exact outside
  | again code around loops inside tape steps status =>
    obtain ⟨-, enclosed⟩ := stands
    rw [code] at enclosed
    -- The body is entered again, and the loop stays around it.
    have whole := enclosed
    rw [around] at enclosed
    obtain ⟨start, same, -, lies, -⟩ := enclosed
    refine ⟨start + 1, ?_, ?_⟩
    · rw [inside, listing]
      exact lies
    · rw [inside, listing, loops, Nat.add_right_comm, ← same]
      exact whole
  | @entered place body rest code inside loops tape steps status =>
    refine ⟨pos + body.size + 1, ?_, ?_⟩
    · rw [inside]
      trivial
    · rw [inside, listing, loops]
      exact stands.enclosed code
  | executed code steps loops near behind =>
    -- An input instruction that waits is still the next one.
    rcases behind with ⟨behind, -⟩ | ⟨same, -⟩
    · exact ⟨pos + 1, stands.behind code behind listing loops⟩
    · refine ⟨pos, ?_⟩
      rw [StandsAt, same, listing, loops]
      exact stands
  | completed code waited steps loops near behind status =>
    exact ⟨pos + 1, stands.behind code behind listing loops⟩

/-- A move changes the current cell at most and keeps the pointer on the tape. -/
theorem Shift.near {before after : Machine} (shift : Shift before after) :
    before.tape.Near after.tape := by
  cases shift with
  | rest code loops tape => rw [tape]; exact .refl _
  | left code around behind tape => rw [tape]; exact .refl _
  | again code around loops inside tape => rw [tape]; exact .refl _
  | entered code inside loops tape => rw [tape]; exact .refl _
  | executed code steps loops near => exact near
  | completed code waited steps loops near => exact near

end Machine

namespace Session

/-- A reached session stands somewhere in the listing of its program. -/
theorem Reaches.standsAt {source : Bytes} {blueprint : Blueprint} {script : List Entry}
    (compiled : compile source = .ok blueprint.program) {session : Session}
    (reached : Reaches ⟨blueprint.machine, script⟩ session) :
    ∃ pos, session.machine.StandsAt pos := by
  have first := Blueprint.machine_standsAt compiled
  induction reached with
  | refl => exact ⟨0, first⟩
  | @step session _ ih =>
    obtain ⟨pos, stands⟩ := ih
    have listing : session.step.machine.listing = session.machine.listing :=
      congrArg (fun kept => kept.2.1) session.fixed_step
    exact session.shift_step.standsAt listing stands
  | @rerun session cancellation reached _ _ =>
    -- The program and its listing are those of the first run.
    have kept := reached.fixed
    have program : session.machine.program = blueprint.machine.program :=
      congrArg Prod.fst kept
    have listing : session.machine.listing = blueprint.machine.listing :=
      congrArg (fun same => same.2.1) kept
    refine ⟨0, ?_⟩
    simp only [Machine.StandsAt, Session.rerun, Session.restart, Machine.restart, program, listing]
    exact first

/-- A reached session has its pointer on a tape of the length that was asked for. -/
theorem Reaches.tape {blueprint : Blueprint} {script : List Entry}
    (positive : 1 ≤ blueprint.tapeLength) {session : Session}
    (reached : Reaches ⟨blueprint.machine, script⟩ session) :
    session.machine.tape.pointer < session.machine.tape.length ∧
      session.machine.tape.length = blueprint.tapeLength.toNat := by
  -- No move takes the pointer off the tape, and a rerun does not touch it.
  induction reached with
  | refl =>
    simp only [Blueprint.machine, Tape.blank, Tape.length, Array.size_replicate, and_true]
    omega
  | @step session _ ih =>
    have near := session.shift_step.near
    exact ⟨near.inside ih.1, near.length.trans ih.2⟩
  | rerun cancellation _ _ ih => exact ih

end Session

namespace Machine

/-- How far the program has come since an instruction was about to start. -/
inductive Since (before after : Machine) : Prop
  /-- No instruction has started. -/
  | none (steps : after.steps = before.steps) (tape : after.tape = before.tape)
      (calm : after.status ≠ .asking)
  /-- One instruction has started, and may still wait for its input. -/
  | one (steps : after.steps = before.steps + 1) (near : before.tape.Near after.tape)
      (waiting : after.status = .asking → after.tape = before.tape)
  /-- More than one instruction has started. -/
  | more (steps : before.steps + 1 < after.steps)

/-- A further move starts at most one further instruction. -/
theorem Since.shift {before middle after : Machine} (since : Since before middle)
    (shift : middle.Shift after) : Since before after := by
  -- Only the start of an instruction counts, and the one that waits is not started again.
  cases since with
  | none steps tape calm =>
    cases shift with
    | rest _ _ same count waiting =>
      exact .none (count.trans steps) (same.trans tape) fun asking => calm (waiting asking)
    | left _ _ _ same count status =>
      exact .none (count.trans steps) (same.trans tape) (by rw [status]; exact calm)
    | again _ _ _ _ same count status =>
      exact .none (count.trans steps) (same.trans tape) (by rw [status]; exact calm)
    | entered _ _ _ same count _ =>
      exact .one (by rw [count, steps]) (by rw [same, tape]; exact .refl _) fun _ =>
        same.trans tape
    | executed _ count _ near behind =>
      rw [tape] at near behind
      refine .one (by rw [count, steps]) near fun asking => ?_
      rcases behind with ⟨-, ready⟩ | ⟨-, same⟩
      · rw [ready] at asking
        exact nomatch asking
      · exact same
    | completed _ waited _ _ _ _ _ => exact absurd waited calm
  | one steps near waiting =>
    cases shift with
    | rest _ _ same count wait =>
      exact .one (count.trans steps) (by rw [same]; exact near) fun asking =>
        same.trans (waiting (wait asking))
    | left _ _ _ same count status =>
      exact .one (count.trans steps) (by rw [same]; exact near) fun asking =>
        same.trans (waiting (status ▸ asking))
    | again _ _ _ _ same count status =>
      exact .one (count.trans steps) (by rw [same]; exact near) fun asking =>
        same.trans (waiting (status ▸ asking))
    | entered _ _ _ _ count _ => exact .more (by omega)
    | executed _ count _ _ _ => exact .more (by omega)
    | completed _ waited count _ close _ ready =>
      -- The instruction has changed nothing while it waited.
      rw [waiting waited] at close
      refine .one (count.trans steps) close fun asking => ?_
      rw [ready] at asking
      exact nomatch asking
  | more steps => cases shift <;> exact .more (by omega)

/-- A machine with its pointer on the tape and its code in the listing has all accesses in range. -/
theorem StandsAt.guarded {machine : Machine} {pos : Nat} (stands : machine.StandsAt pos)
    (inside : machine.tape.pointer < machine.tape.length) : Guarded machine where
  cell := by
    rw [Tape.length] at inside
    simp [Tape.cell?, Tape.cell, inside]
  write value := by
    rw [Tape.length] at inside
    simp [Tape.write?, Tape.write, Array.setIfInBounds, inside]
  memory := Console.memoryDump?_eq machine.tape
  code pos _ _ := Console.codeListing?_eq machine.listing pos
  place _ _ next := stands.next next
  opcode _ opcode _ := by
    rcases opcode with action | _
    · cases action <;> rfl
    · rfl

end Machine

/-- What a session comes to shows how many instructions have started since. -/
theorem Session.Reaches.since {session later : Session} (calm : session.machine.status ≠ .asking)
    (reached : session.Reaches later) : session.machine.Since later.machine := by
  induction reached with
  | refl => exact .none rfl rfl calm
  | @step later _ ih => exact ih.shift later.shift_step
  | rerun cancellation _ _ ih =>
    cases ih with
    | none steps tape _ => exact .none steps tape fun same => nomatch same
    | one steps near _ => exact .one steps near fun same => nomatch same
    | more steps => exact .more steps

/-- Whatever a machine for a compiled program comes to, its pointer is on a tape of constant length
and all its accesses are in range; and while no more than one instruction starts, at most the
current cell changes and the pointer moves by at most one. -/
theorem reaches_tape_safe {source : Bytes} {blueprint : Blueprint}
    (compiled : compile source = .ok blueprint.program) (positive : 1 ≤ blueprint.tapeLength)
    {script : List Entry} {session : Session}
    (reached : Session.Reaches ⟨blueprint.machine, script⟩ session) :
    session.machine.tape.pointer < session.machine.tape.length ∧
      session.machine.tape.length = blueprint.tapeLength.toNat ∧
      (session.machine.status ≠ .asking → ∀ later, session.Reaches later →
        later.machine.steps ≤ session.machine.steps + 1 →
        session.machine.tape.Near later.machine.tape) ∧
      session.machine.Guarded := by
  obtain ⟨inside, length⟩ := reached.tape positive
  obtain ⟨pos, stands⟩ := reached.standsAt compiled
  -- What has happened since is told by the number of instructions started.
  refine ⟨inside, length, fun calm later further few => ?_, stands.guarded inside⟩
  cases further.since calm with
  | none _ tape _ => rw [tape]; exact .refl _
  | one _ near _ => exact near
  | more steps => omega

/-- A program that leaves the tape is safe in its second run, too: the instruction that meets the
end of the input there changes nothing but the current cell. -/
theorem reaches_tape_safe_rerun :
    let program : Program := ⟨.op 0 .input (.op 1 .moveRight .done), 2, 0⟩
    let blueprint : Blueprint := { Blueprint.ofProgram program with tapeLength := 1 }
    let start : Session := ⟨blueprint.machine, [.line (utf8 "x")]⟩
    let session := start.step.step.step.rerun .never
    session.machine.tape.pointer < session.machine.tape.length ∧ session.machine.Guarded ∧
      session.machine.tape.Near session.step.step.machine.tape := by
  intro program blueprint start session
  have compiled : compile (utf8 ",>") = .ok blueprint.program := rfl
  have reached : start.Reaches session := .rerun .never (.step (.step (.step .refl))) rfl
  obtain ⟨inside, -, near, guarded⟩ := reaches_tape_safe compiled (by decide) reached
  refine ⟨inside, guarded, near (by decide +kernel) _ (.step (.step .refl)) (by decide +kernel)⟩

end TapeMachine
