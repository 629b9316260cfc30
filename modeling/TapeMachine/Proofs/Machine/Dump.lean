import TapeMachine.Proofs.Machine.Emission
import TapeMachine.Proofs.Machine.Prompt
import TapeMachine.Proofs.Machine.Safety
import TapeMachine.Proofs.Machine.Tape

/-! What the console lists and dumps: the windows of the listing and of the tape that its rows show,
and a memory dump that reads back as the cells. -/

namespace TapeMachine

/-- A window of bytes and the one behind it are one longer window. -/
theorem extract_append (bytes : Array UInt8) (start first second : Nat) :
    (bytes.extract start (start + (first + second))).toList =
      (bytes.extract start (start + first)).toList ++
        (bytes.extract (start + first) (start + first + second)).toList :=
  Tape.window_append ⟨bytes, 0⟩ start first second

/-- How many bytes a window has. -/
theorem length_extract (bytes : Array UInt8) (start size : Nat) :
    (bytes.extract start (start + size)).toList.length = min size (bytes.size - start) :=
  Tape.length_window ⟨bytes, 0⟩ start size

namespace Console

section

variable {rows columns first size : Nat}

/-- The first row starts inside or there is no row, and the other rows follow it. -/
theorem rowStarts_succ (rows columns first size : Nat) :
    rowStarts (rows + 1) columns first size =
      if first < size then first :: rowStarts rows columns (first + columns) size else [] := by
  -- The rows behind the first are numbered one higher than the rows of a dump from its end on.
  have shifted : ((fun row => first + row * columns) ∘ fun row => row + 1) =
      fun row => first + columns + row * columns := by
    funext row
    simp only [Function.comp_apply, Nat.add_mul]
    omega
  rw [rowStarts, List.range_succ_eq_map, List.map_cons, List.map_map, shifted, Nat.zero_mul,
    Nat.add_zero, List.takeWhile_cons]
  by_cases inside : first < size <;> simp [inside, rowStarts]

/-- There are no more rows than asked for. -/
theorem length_rowStarts_le : (rowStarts rows columns first size).length ≤ rows := by
  have shorter : (rowStarts rows columns first size).length ≤
      ((List.range rows).map fun row => first + row * columns).length :=
    (List.takeWhile_prefix _).length_le
  rwa [List.length_map, List.length_range] at shorter

/-- A row with a number starts that many rows behind the first, and inside. -/
theorem getElem?_rowStarts {row start : Nat}
    (known : (rowStarts rows columns first size)[row]? = some start) :
    start = first + row * columns ∧ start < size := by
  induction rows generalizing first row with
  | zero => cases known
  | succ rows ih =>
    rw [rowStarts_succ] at known
    by_cases inside : first < size
    · rw [if_pos inside] at known
      cases row with
      | zero =>
        cases known
        exact ⟨by omega, inside⟩
      | succ row =>
        obtain ⟨place, inside⟩ := ih known
        refine ⟨?_, inside⟩
        rw [place, Nat.add_mul]
        omega
    · rw [if_neg inside] at known
      cases known

/-- A row with another row behind it is full. -/
theorem full_of_mem_dropLast {start : Nat}
    (member : start ∈ (rowStarts rows columns first size).dropLast) : start + columns ≤ size := by
  induction rows generalizing first with
  | zero => cases member
  | succ rows ih =>
    rw [rowStarts_succ] at member
    by_cases inside : first < size
    · rw [if_pos inside] at member
      -- The first row is followed by another only if that one starts inside.
      by_cases more : first + columns < size
      · cases later : rowStarts rows columns (first + columns) size with
        | nil =>
          rw [later] at member
          cases member
        | cons next others =>
          rw [later, List.dropLast_cons_cons, List.mem_cons] at member
          rcases member with same | member
          · omega
          · exact ih (later ▸ member)
      · have last : rowStarts rows columns (first + columns) size = [] := by
          cases rows with
          | zero => rfl
          | succ rows => rw [rowStarts_succ, if_neg more]
        rw [last] at member
        cases member
    · rw [if_neg inside] at member
      cases member

/-- The rows of a window are the window. -/
theorem flatMap_rowStarts (bytes : Array UInt8) (rows columns first : Nat) :
    ((rowStarts rows columns first bytes.size).flatMap fun start =>
      (bytes.extract start (start + columns)).toList) =
      (bytes.extract first (first + rows * columns)).toList := by
  induction rows generalizing first with
  | zero => simp [rowStarts]
  | succ rows ih =>
    rw [rowStarts_succ, Nat.add_mul, Nat.one_mul, Nat.add_comm (rows * columns), extract_append,
      ← ih]
    by_cases inside : first < bytes.size
    · rw [if_pos inside, List.flatMap_cons]
    · -- Behind the end there is nothing to show.
      have outside : (rowStarts rows columns (first + columns) bytes.size) = [] := by
        cases rows with
        | zero => rfl
        | succ rows => rw [rowStarts_succ, if_neg (by omega)]
      have nothing : (bytes.extract first (first + columns)).toList = [] := by
        rw [← List.length_eq_zero_iff, length_extract]
        omega
      rw [if_neg inside, outside, nothing]
      rfl

end

/-- Rows show the listing from a position on: up to 512 symbols, 64 in a row. -/
structure ListsFrom (listing : Array UInt8) (pos : Nat) (rows : List Bytes) : Prop where
  whole : slice? listing pos (min (pos + 512) listing.size) = some rows.flatten
  full : ∀ row ∈ rows.dropLast, row.length = 64
  bounds : ∀ row ∈ rows, 1 ≤ row.length ∧ row.length ≤ 64

/-- A code listing shows the listing from its position on. -/
theorem codeListing_listsFrom {listing : Array UInt8} {pos : Nat} (inside : pos < listing.size) :
    ListsFrom listing pos (codeListing listing pos) := by
  have rows : codeListing listing pos = (rowStarts 8 64 pos listing.size).map fun start =>
      (listing.extract start (start + 64)).toList :=
    filterMap_rows 8 64 pos listing.size fun start => (listing.extract start (start + 64)).toList
  rw [rows]
  constructor
  case whole =>
    -- The rows are cut out one behind the other; only the last one can be short.
    rw [slice?_of_lt inside 512, ← List.flatMap_def, flatMap_rowStarts]
  case full =>
    intro row member
    rw [← List.map_dropLast] at member
    obtain ⟨start, known, rfl⟩ := List.mem_map.mp member
    have within := full_of_mem_dropLast known
    rw [length_extract]
    omega
  case bounds =>
    intro row member
    obtain ⟨start, known, rfl⟩ := List.mem_map.mp member
    obtain ⟨number, known⟩ := List.getElem?_of_mem known
    have begins := (getElem?_rowStarts known).2
    rw [length_extract]
    omega

/-- A row of a memory dump as a reader takes it: an address, cells, and the characters beside
them. -/
structure DumpRow where
  /-- The address of the first cell. -/
  start : Nat
  /-- The cells. -/
  cells : Bytes
  /-- The characters beside the cells. -/
  gutter : Bytes
  deriving DecidableEq, Repr

/-- Reads hexadecimal pairs with a space between them, up to two spaces; the rest is left. -/
def readPairs? : Bytes → Option (Bytes × Bytes)
  | high :: low :: space :: rest =>
    match readHex? [high, low], rest with
    | some cell, next :: rest =>
      if space ≠ ascii ' ' then none
      else if next = ascii ' ' then some ([UInt8.ofNat cell], rest)
      else (readPairs? (next :: rest)).map fun (cells, rest) => (UInt8.ofNat cell :: cells, rest)
    | _, _ => none
  | _ => none

/-- Reads a row of a memory dump: `0x` and the digits of the address up to a space, another space,
the cells, and the characters beside them. -/
def DumpRow.read? : Bytes → Option DumpRow
  | zero :: letter :: row =>
    if [zero, letter] ≠ utf8 "0x" then none
    else
      let digits := row.takeWhile (· ≠ ascii ' ')
      match readHex? digits, row.drop digits.length with
      | some start, first :: second :: cells =>
        if [first, second] ≠ utf8 "  " then none
        else (readPairs? cells).map fun (cells, gutter) => ⟨start, cells, gutter⟩
      | _, _ => none
  | _ => none

/-- A pair with a space behind it is the last if another space follows. -/
theorem readPairs?_pair (cell next : UInt8) (rest : Bytes) :
    readPairs? (utf8 (hexByte cell) ++ (ascii ' ' :: next :: rest)) =
      if next = ascii ' ' then some ([cell], rest)
      else (readPairs? (next :: rest)).map fun (cells, rest) => (cell :: cells, rest) := by
  rw [utf8_hexByte]
  simp [readPairs?, readHex?_halves]

/-- The pairs of a row read back as its cells. -/
theorem readPairs?_cells {cells : Bytes} (busy : cells ≠ []) (gutter : Bytes) :
    readPairs? (utf8 (String.intercalate " " (cells.map hexByte)) ++ (utf8 "  " ++ gutter)) =
      some (cells, gutter) := by
  induction cells with
  -- Each pair but the last is followed by the digit of the next one.
  | nil => exact absurd rfl busy
  | cons cell more ih =>
    cases more with
    | nil =>
      rw [List.map_singleton, String.intercalate_singleton]
      exact (readPairs?_pair cell (ascii ' ') gutter).trans (if_pos rfl)
    | cons next more =>
      have later := ih (by simp)
      -- The next pair begins with a digit, which is no second space.
      have begins : ∃ text, utf8 (String.intercalate " " ((next :: more).map hexByte)) =
          hexByteOf (next.toNat / 16) :: text := by
        cases more with
        | nil => exact ⟨_, by rw [List.map_singleton, String.intercalate_singleton, utf8_hexByte]⟩
        | cons other more =>
          rw [List.map_cons, List.map_cons, String.intercalate_cons_cons, utf8_append, utf8_append,
            utf8_hexByte]
          exact ⟨_, rfl⟩
      obtain ⟨text, begins⟩ := begins
      have digit : hexByteOf (next.toNat / 16) ≠ ascii ' ' :=
        (hexByteOf_digit (by have := next.toNat_lt; omega)).2.2
      rw [begins, List.cons_append] at later
      rw [List.map_cons, List.map_cons, String.intercalate_cons_cons, ← List.map_cons, utf8_append,
        utf8_append, begins, List.append_assoc, List.append_assoc]
      refine (readPairs?_pair cell (hexByteOf (next.toNat / 16)) _).trans ((if_neg digit).trans ?_)
      exact congrArg (Option.map fun (cells, rest) => (cell :: cells, rest)) later

/-- A row of a memory dump reads back as what it was written for. -/
theorem read?_memoryRow (start : Nat) {cells : Bytes} (busy : cells ≠ []) :
    DumpRow.read? (memoryRow start cells) = some ⟨start, cells, cells.map gutter⟩ := by
  have numeral := hexNumeral_hex8 start
  have read := numeral.value
  have digits : ascii ' ' ∉ utf8 (hex8 start) := fun member =>
    absurd (numeral.lower _ member) (by decide +kernel)
  have pairs := readPairs?_cells busy (cells.map gutter)
  have marker : utf8 "0x" = [ascii '0', ascii 'x'] := rfl
  have spaces : utf8 "  " = [ascii ' ', ascii ' '] := rfl
  have row : memoryRow start cells = ascii '0' :: ascii 'x' :: (utf8 (hex8 start) ++
      (ascii ' ' :: ascii ' ' :: (utf8 (String.intercalate " " (cells.map hexByte)) ++
        (utf8 "  " ++ cells.map gutter)))) := by
    simp only [memoryRow, address, utf8_append, marker, spaces, List.append_assoc,
      List.cons_append, List.nil_append]
  -- The digits of the address hold no space, and the first space ends them.
  have ended : ∀ more : Bytes, (utf8 (hex8 start) ++ ascii ' ' :: more).takeWhile
      (· ≠ ascii ' ') = utf8 (hex8 start) := by
    intro more
    rw [List.takeWhile_append_of_pos]
    · simp
    · intro byte member
      have other : byte ≠ ascii ' ' := fun same => digits (same ▸ member)
      simpa using other
  rw [row]
  simp only [DumpRow.read?, ended, List.drop_left, read, marker, spaces.symm, ne_eq,
    not_true_eq_false, if_false, pairs, Option.map_some]

example : memoryRow 32 (utf8 "Hi\n") = utf8 "0x00000020  48 69 0a  Hi." := by decide +kernel

/-- Lines dump the tape: up to eight rows from the one that holds the data pointer on, with sixteen
cells each, which a reader finds at their addresses with their characters beside them. -/
structure Dumps (tape : Tape) (lines : List Bytes) (rows : List DumpRow) : Prop where
  read : lines.map DumpRow.read? = rows.map some
  count : 1 ≤ rows.length ∧ rows.length ≤ 8
  starts : ∀ row : Fin rows.length,
    rows[row].start = tape.pointer - tape.pointer % 16 + 16 * row
  whole : slice? tape.cells (tape.pointer - tape.pointer % 16)
    (min (tape.pointer - tape.pointer % 16 + 128) tape.length) = some (rows.flatMap DumpRow.cells)
  full : ∀ row ∈ rows.dropLast, row.cells.length = 16
  bounds : ∀ row ∈ rows, 1 ≤ row.cells.length ∧ row.cells.length ≤ 16
  pointed : ∃ row, rows.head? = some row ∧
    row.cells[tape.pointer - row.start]? = some tape.cell
  aside : ∀ row ∈ rows, row.gutter = row.cells.map fun cell =>
    if 0x20 ≤ cell ∧ cell ≤ 0x7e then cell else ascii '.'

/-- A row of a dump of the tape as a reader takes it. -/
def dumpRow (tape : Tape) (start : Nat) : DumpRow :=
  ⟨start, tape.window start 16, (tape.window start 16).map gutter⟩

/-- A memory dump shows the tape from the row of its pointer on. -/
theorem memoryDump_dumps {tape : Tape} (inside : tape.pointer < tape.length) :
    ∃ rows, Dumps tape (memoryDump tape) rows := by
  have base : memoryBase tape = tape.pointer - tape.pointer % 16 := by
    simp only [memoryBase, memoryColumns]
    omega
  have lines : memoryDump tape = (rowStarts 8 16 (memoryBase tape) tape.length).map fun start =>
      memoryRow start (tape.window start 16) :=
    filterMap_rows 8 16 (memoryBase tape) tape.length fun start =>
      memoryRow start (tape.window start 16)
  rw [lines, base]
  -- The row of the pointer starts inside, so that there is a first row.
  have started := rowStarts_succ 7 16 (tape.pointer - tape.pointer % 16) tape.length
  rw [if_pos (by omega)] at started
  have filled : ∀ start ∈ rowStarts 8 16 (tape.pointer - tape.pointer % 16) tape.length,
      1 ≤ (tape.window start 16).length ∧ (tape.window start 16).length ≤ 16 := by
    intro start member
    obtain ⟨number, known⟩ := List.getElem?_of_mem member
    have begins := (getElem?_rowStarts known).2
    rw [Tape.length_window]
    omega
  refine ⟨(rowStarts 8 16 (tape.pointer - tape.pointer % 16) tape.length).map (dumpRow tape), ?_⟩
  -- Each row is read back by itself, and the rows together are the window.
  constructor
  case read =>
    rw [List.map_map, List.map_map, List.map_inj_left]
    intro start member
    simp only [Function.comp_apply, dumpRow]
    exact read?_memoryRow start (List.length_pos_iff.mp (filled start member).1)
  case count =>
    rw [List.length_map]
    refine ⟨?_, length_rowStarts_le⟩
    rw [started]
    exact Nat.succ_pos _
  case starts =>
    rintro ⟨row, bound⟩
    rw [List.length_map] at bound
    have known := (getElem?_rowStarts (List.getElem?_eq_getElem bound)).1
    simp only [Fin.getElem_fin, List.getElem_map, dumpRow]
    omega
  case whole =>
    have begins : tape.pointer - tape.pointer % 16 < tape.cells.size := by
      rw [Tape.length] at inside
      omega
    rw [List.flatMap_map]
    exact (slice?_of_lt begins 128).trans
      (congrArg some (flatMap_rowStarts tape.cells 8 16 _).symm)
  case full =>
    intro row member
    rw [← List.map_dropLast] at member
    obtain ⟨start, known, rfl⟩ := List.mem_map.mp member
    have within := full_of_mem_dropLast known
    simp only [dumpRow, Tape.length_window]
    omega
  case bounds =>
    intro row member
    obtain ⟨start, known, rfl⟩ := List.mem_map.mp member
    exact filled start known
  case pointed =>
    -- The pointer is in the first row, at its own column.
    refine ⟨dumpRow tape (tape.pointer - tape.pointer % 16), by rw [started]; rfl, ?_⟩
    have column : tape.pointer - (tape.pointer - tape.pointer % 16) <
        (tape.window (tape.pointer - tape.pointer % 16) 16).length := by
      rw [Tape.length_window]
      omega
    have cell : tape.cells[tape.pointer]? = some tape.cell := by
      rw [Tape.cell, Array.getD_eq_getD_getElem?, Array.getElem?_eq_getElem inside]
      rfl
    simp only [dumpRow]
    rw [Tape.getElem?_window column, ← cell]
    congr 1
    omega
  case aside =>
    intro row member
    obtain ⟨start, known, rfl⟩ := List.mem_map.mp member
    rfl

end Console

/-- An empty line holds no command. -/
theorem Command.trimBlank_ne_nil {line : Bytes} {request : Command}
    (known : Command.parse? line = some request) : trimBlank line ≠ [] := by
  intro empty
  rw [Command.parse?, empty] at known
  have none : (Command.all.find? fun command => command.words.any fun word => utf8 word = []) =
      none := by decide
  rw [none] at known
  cases known

namespace Machine

/-- A stopped machine answers a command that shows something with its rows, and stops again. -/
theorem receive_of_parse? {machine : Machine} (stopped : machine.status = .stopped) {pos : Nat}
    {opcode : Opcode} (next : machine.next? = some (pos, opcode)) (line : Bytes) :
    (Command.parse? line = some .code → machine.receive (.line line) =
        ((machine.record (.read line)).printLines
          (Console.codeListing machine.listing pos)).stop pos opcode) ∧
      (Command.parse? line = some .mem → machine.receive (.line line) =
        ((machine.record (.read line)).printLines (Console.memoryDump machine.tape)).stop
          pos opcode) := by
  have heard : machine.receive (.line line) =
      (machine.record (.read line)).command pos opcode line := by
    unfold receive
    rw [stopped]
    -- A stopped machine takes the line for a command, whatever comes next.
    unfold next? at next
    cases code : machine.code with
    | done => simp [code] at next
    | op place action rest =>
      rw [code] at next
      cases next
      rfl
    | loop place body rest =>
      rw [code] at next
      cases next
      rfl
  rw [heard]
  constructor <;> intro known <;>
    rw [command, if_neg (Command.trimBlank_ne_nil known), known] <;> rfl

/-- Rows put out each on a line of its own are followed by the prompt, unless the sink fails. -/
theorem emitted_rows (machine : Machine) (line : Bytes) (rows : List Bytes) (pos : Nat)
    (opcode : Opcode)
    (sound : (((machine.record (.read line)).printLines rows).stop pos opcode).writer.failed =
      false) :
    (((machine.record (.read line)).printLines rows).stop pos opcode).emitted =
      machine.emitted ++ (rows.flatMap fun row => row ++ [newline]) ++
        Console.prompt pos machine.tape.pointer opcode := by
  have printed := (Emits.refl (machine.record (.read line))).printLines rows
  have shown := (Turn.stop printed pos opcode).added sound
  -- What the line source hands out is no output, and printing leaves the pointer where it is.
  have read : (machine.record (.read line)).emitted = machine.emitted :=
    machine.emitted_record rfl
  have kept := (untouched_printLines rows (machine.record (.read line))).tape
  rw [shown, read, kept, List.nil_append, List.append_assoc]
  rfl

/-- Console dumps show exactly the right window: the rows that a stopped machine prints list the
symbols from its position on, or dump the tape from the row of its data pointer on. Each of them is
put out on a line of its own, and the prompt follows them, unless the sink fails. -/
theorem console_dumps_exact {machine : Machine} (stopped : machine.status = .stopped) {pos : Nat}
    {opcode : Opcode} (next : machine.next? = some (pos, opcode)) (line : Bytes) :
    let after := machine.receive (.line line)
    let prompt := Console.prompt pos machine.tape.pointer opcode
    (Command.parse? line = some .code → pos < machine.listing.size →
      ∃ rows, Console.ListsFrom machine.listing pos rows ∧
        after = ((machine.record (.read line)).printLines rows).stop pos opcode ∧
        (after.writer.failed = false → after.emitted =
          machine.emitted ++ (rows.flatMap fun row => row ++ [newline]) ++ prompt)) ∧
    (Command.parse? line = some .mem → machine.tape.pointer < machine.tape.length →
      ∃ lines rows, Console.Dumps machine.tape lines rows ∧
        after = ((machine.record (.read line)).printLines lines).stop pos opcode ∧
        (after.writer.failed = false → after.emitted =
          machine.emitted ++ (lines.flatMap fun row => row ++ [newline]) ++ prompt)) ∧
    Console.Prompts pos machine.tape.pointer opcode.symbol prompt := by
  intro after prompt
  obtain ⟨listed, dumped⟩ := receive_of_parse? stopped next line
  -- Both commands print their rows and stop again; only the rows are different.
  refine ⟨fun known inside => ?_, fun known inside => ?_, Console.prompts_prompt _ _ _⟩
  · refine ⟨_, Console.codeListing_listsFrom inside, listed known, fun sound => ?_⟩
    simp only [after, listed known] at sound ⊢
    exact machine.emitted_rows line _ pos opcode sound
  · obtain ⟨rows, dumps⟩ := Console.memoryDump_dumps inside
    refine ⟨_, rows, dumps, dumped known, fun sound => ?_⟩
    simp only [after, dumped known] at sound ⊢
    exact machine.emitted_rows line _ pos opcode sound

/-- In front of the last instruction one symbol is left to list, and one cell to dump where the
pointer is on the only cell behind a full row. -/
theorem console_dumps_exact_last_cell :
    let program : Program := ⟨.op 0 .increment (.op 1 .input .done), 2, 0⟩
    let blueprint : Blueprint :=
      { Blueprint.ofProgram program with tapeLength := 17, debugging := true }
    let start := blueprint.machine
    let machine : Machine := { start with
      code := .op 1 .input .done, tape := { start.tape with pointer := 16 }, status := .stopped }
    (∃ rows, Console.ListsFrom machine.listing 1 rows ∧
      machine.receive (.line (utf8 "c")) =
        ((machine.record (.read (utf8 "c"))).printLines rows).stop 1 (.basic .input)) ∧
    (machine.receive (.line (utf8 "c"))).emitted =
      utf8 ",\n(brainfuck 0x00000001:0x00000010:,) " ∧
    (∃ lines rows, Console.Dumps machine.tape lines rows ∧
      machine.receive (.line (utf8 "mem")) =
        ((machine.record (.read (utf8 "mem"))).printLines lines).stop 1 (.basic .input)) ∧
    (machine.receive (.line (utf8 "mem"))).emitted =
      utf8 "0x00000010  00  .\n(brainfuck 0x00000001:0x00000010:,) " := by
  intro program blueprint start machine
  have stopped : machine.status = .stopped := rfl
  have next : machine.next? = some (1, .basic .input) := rfl
  have exact := console_dumps_exact stopped next
  obtain ⟨rows, lists, listed, -⟩ := (exact (utf8 "c")).1 (by decide +kernel) (by decide +kernel)
  obtain ⟨lines, dump, dumps, dumped, -⟩ :=
    (exact (utf8 "mem")).2.1 (by decide +kernel) (by decide +kernel)
  exact ⟨⟨rows, lists, listed⟩, by decide +kernel, ⟨lines, dump, dumps, dumped⟩,
    by decide +kernel⟩

end Machine

end TapeMachine
