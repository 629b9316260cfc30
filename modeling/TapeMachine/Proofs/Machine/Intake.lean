import TapeMachine.Proofs.Machine.Deed
import TapeMachine.Proofs.Machine.Safety
import TapeMachine.Runner

/-! Every byte of input reaches the program in order, once: what the input instructions have stored
and what is pending for them are just the bytes of the entries that have been read. Each byte that
is stored stands in the current cell behind its instruction. -/

namespace TapeMachine

/-- The current cell has taken a byte, and the pointer and all other cells are as they were. -/
structure Tape.Took (before : Tape) (byte : UInt8) (after : Tape) : Prop where
  pointer : after.pointer = before.pointer
  cell : after.cells[before.pointer]? = some byte
  others : ∀ address, address ≠ before.pointer → after.cells[address]? = before.cells[address]?

/-- Writing on a tape with the pointer inside makes the current cell take the byte. -/
theorem Tape.took_write {tape : Tape} (inside : tape.pointer < tape.length) (byte : UInt8) :
    tape.Took byte (tape.write byte) where
  pointer := rfl
  cell := Array.getElem?_setIfInBounds_self_of_lt inside
  others _ other := Array.getElem?_setIfInBounds_ne other.symm

namespace InputMode

/-- The bytes that an entry has for the input instructions. -/
def brought (inputMode : InputMode) : Entry → Bytes
  | .line text => inputMode.fed text
  | _ => []

/-- The bytes that a script has for the input instructions. -/
def decode (inputMode : InputMode) (script : List Entry) : Bytes := script.flatMap inputMode.brought

/-- One more entry is read, or the end of the input behind the last one. -/
theorem decode_take_succ (inputMode : InputMode) (script : List Entry) (reads : Nat) :
    inputMode.decode (script.take (reads + 1)) =
      inputMode.decode (script.take reads) ++
        inputMode.brought ((script.drop reads).headD .endOfInput) := by
  rw [List.take_add_one, decode, List.flatMap_append, List.headD_eq_head?_getD, List.head?_drop]
  -- The end of the input brings no byte.
  cases script[reads]? with
  | none => rfl
  | some entry => simp [decode]

end InputMode

namespace Event

/-- An answer of the line source. -/
def answer : Event → List Event
  | read line => [read line]
  | readError message => [readError message]
  | _ => []

/-- A prompt for program input, or an answer of the line source. -/
def exchange : Event → List Event
  | prompted => [prompted]
  | event => event.answer

end Event

namespace Machine

/-- A machine outside the debugger has been fed some bytes by a number of answers, each of them
behind its prompt, and may have been asked for another one. Each byte has been stored or is pending,
and line input leaves nothing pending. -/
structure Fed (inputMode : InputMode) (prompt : List Event) (reads : Nat) (bytes : Bytes)
    (asked : List Event) (machine : Machine) : Prop where
  running : machine.mode = .running
  mode : machine.inputMode = inputMode
  prompting : (if machine.prompting then [Event.prompted] else []) = prompt
  reads : (machine.told Event.answer).length = reads
  taken : machine.told Event.inputs ++ machine.pending = bytes
  single : inputMode = .line → machine.pending = []
  exchanges : machine.told Event.exchange =
    ((machine.told Event.answer).flatMap fun answer => prompt ++ [answer]) ++ asked

/-- The prompt that has not been answered yet. -/
def asked (machine : Machine) (prompt : List Event) : List Event :=
  if machine.status = .asking then prompt else []

namespace Fed

variable {inputMode : InputMode} {prompt asked : List Event} {reads : Nat} {bytes : Bytes}
  {machine after : Machine}

/-- The books of the input are kept by whatever changes nothing that they tell of. -/
theorem of_told (fed : Fed inputMode prompt reads bytes asked machine)
    (inputs : after.told Event.inputs = machine.told Event.inputs)
    (answer : after.told Event.answer = machine.told Event.answer)
    (exchange : after.told Event.exchange = machine.told Event.exchange)
    (mode : after.mode = machine.mode) (pending : after.pending = machine.pending)
    (same : after.inputMode = machine.inputMode) (prompting : after.prompting = machine.prompting) :
    Fed inputMode prompt reads bytes asked after where
  running := mode.trans fed.running
  mode := same.trans fed.mode
  prompting := by rw [prompting, fed.prompting]
  reads := by rw [answer, fed.reads]
  taken := by rw [inputs, pending, fed.taken]
  single line := by rw [pending, fed.single line]
  exchanges := by rw [exchange, answer, fed.exchanges]

/-- The books of the input are kept where the journal does not grow. -/
theorem other (fed : Fed inputMode prompt reads bytes asked machine)
    (journal : after.journal = machine.journal) (mode : after.mode = machine.mode)
    (pending : after.pending = machine.pending) (same : after.inputMode = machine.inputMode)
    (prompting : after.prompting = machine.prompting) :
    Fed inputMode prompt reads bytes asked after := by
  have told {α : Type} (view : Event → List α) : after.told view = machine.told view := by
    simp only [Machine.told, events, journal]
  exact fed.of_told (told _) (told _) (told _) mode pending same prompting

/-- Other events have nothing to do with the input. -/
theorem record (fed : Fed inputMode prompt reads bytes asked machine) {event : Event}
    (inputs : event.inputs = []) (exchange : event.exchange = []) :
    Fed inputMode prompt reads bytes asked (machine.record event) := by
  have answer : event.answer = [] := by cases event <;> first | rfl | cases exchange
  refine fed.of_told ?_ ?_ ?_ rfl rfl rfl rfl
  · rw [told_record, inputs, List.append_nil]
  · rw [told_record, answer, List.append_nil]
  · rw [told_record, exchange, List.append_nil]

/-- The start of an instruction takes no byte in. -/
theorem begin (fed : Fed inputMode prompt reads bytes asked machine) (pos : Nat)
    (opcode : Opcode) : Fed inputMode prompt reads bytes asked (machine.begin pos opcode) :=
  fed.of_told (machine.told_begin pos opcode fun _ _ _ _ => rfl)
    (machine.told_begin pos opcode fun _ _ _ _ => rfl)
    (machine.told_begin pos opcode fun _ _ _ _ => rfl) rfl rfl rfl rfl

/-- The end of a run takes no byte in. -/
theorem halt (fed : Fed inputMode prompt reads bytes asked machine) (error : Option RunError) :
    Fed inputMode prompt reads bytes asked (machine.halt error) := by
  have ended : Fed inputMode prompt reads bytes asked { machine with status := .halted error } :=
    fed.other rfl rfl rfl rfl rfl
  exact ended.record rfl rfl

/-- The user is asked before the machine waits. -/
theorem await (fed : Fed inputMode prompt reads bytes [] machine) :
    Fed inputMode prompt reads bytes prompt machine.await := by
  have prompted : Fed inputMode prompt reads bytes prompt
      (if machine.prompting then machine.record .prompted else machine) := by
    have same := fed.prompting
    split
    · rename_i prompting
      rw [if_pos prompting] at same
      have told {α : Type} (view : Event → List α) := machine.told_record .prompted view
      refine ⟨fed.running, fed.mode, fed.prompting, ?_, ?_, fed.single, ?_⟩
      · simpa only [told, Event.answer, List.append_nil] using fed.reads
      · have silent : (machine.record .prompted).told Event.inputs = machine.told Event.inputs := by
          simp [Event.inputs]
        exact (congrArg (· ++ machine.pending) silent).trans fed.taken
      · rw [told, told, fed.exchanges, ← same]
        simp [Event.answer, Event.exchange]
    · rename_i prompting
      rw [if_neg prompting] at same
      rwa [← same] at fed ⊢
  exact prompted.other rfl rfl rfl rfl rfl

/-- An answer comes behind its prompt. -/
theorem recordEntry (fed : Fed inputMode prompt reads bytes prompt machine) (entry : Entry) :
    Fed inputMode prompt (reads + 1) bytes [] (machine.recordEntry entry) := by
  have answered {event : Event} (inputs : event.inputs = []) (answer : event.answer = [event])
      (exchange : event.exchange = [event]) :
      Fed inputMode prompt (reads + 1) bytes [] (machine.record event) := by
    refine ⟨fed.running, fed.mode, fed.prompting, ?_, ?_, fed.single, ?_⟩
    · rw [told_record, answer, List.length_append, fed.reads]
      rfl
    · rw [told_record, inputs, List.append_nil]
      exact fed.taken
    · rw [told_record, told_record, exchange, answer, fed.exchanges]
      simp
  cases entry <;> exact answered rfl rfl rfl

/-- A byte is stored, and the others stay pending behind it. -/
theorem store (fed : Fed inputMode prompt reads bytes asked machine) {byte : UInt8}
    {pending more : Bytes} (next : machine.pending ++ more = byte :: pending)
    (single : inputMode = .line → pending = []) (rest : Code) :
    Fed inputMode prompt reads (bytes ++ more) asked
      ({ machine with pending := pending }.store byte rest) := by
  have whole {α : Type} (view : Event → List α) :
      ({ machine with pending := pending }.store byte rest).told view =
        machine.told view ++ view (.input byte) := machine.told_record (.input byte) view
  refine ⟨fed.running, fed.mode, fed.prompting, ?_, ?_, single, ?_⟩
  · rw [whole]
    simpa [Event.answer] using fed.reads
  · -- The byte goes from the front of what is pending to the end of what has been stored.
    calc ({ machine with pending := pending }.store byte rest).told Event.inputs ++ pending
        = machine.told Event.inputs ++ (byte :: pending) := by
          rw [whole, Event.inputs, List.append_assoc, List.singleton_append]
      _ = bytes ++ more := by rw [← next, ← List.append_assoc, fed.taken]
  · rw [whole, whole]
    simpa [Event.answer, Event.exchange] using fed.exchanges

/-- Deliveries to the sink have nothing to do with the input. -/
theorem bare_iff : Fed inputMode prompt reads bytes asked machine.bare ↔
    Fed inputMode prompt reads bytes asked machine := by
  have inputs : machine.bare.told Event.inputs = machine.told Event.inputs :=
    machine.told_bare fun _ => rfl
  have answer : machine.bare.told Event.answer = machine.told Event.answer :=
    machine.told_bare fun _ => rfl
  have exchange : machine.bare.told Event.exchange = machine.told Event.exchange :=
    machine.told_bare fun _ => rfl
  constructor
  · exact fun fed => fed.of_told inputs.symm answer.symm exchange.symm rfl rfl rfl rfl
  · exact fun fed => fed.of_told inputs answer exchange rfl rfl rfl rfl

end Fed

section

variable {inputMode : InputMode} {prompt : List Event} {reads : Nat} {bytes : Bytes}
  {machine after : Machine}

/-- An instruction takes a byte that is pending, or asks for a line. -/
theorem Executes.fed (executes : machine.Executes after)
    (fed : Fed inputMode prompt reads bytes [] machine)
    (plain : ∀ pos rest, machine.code ≠ .op pos .breakpoint rest) :
    after.status ≠ .stopped ∧ Fed inputMode prompt reads bytes (after.asked prompt) after := by
  -- There is no breakpoint, so no instruction switches to the debugger.
  cases executes with
  | enters code => exact ⟨nofun, (fed.begin _ _).other rfl rfl rfl rfl rfl⟩
  | acts code onTape act => exact ⟨nofun, (fed.begin _ _).other rfl rfl rfl rfl rfl⟩
  | faults code onTape act => exact ⟨by simp, (fed.begin _ _).halt _⟩
  | writes code => exact ⟨nofun, ((fed.begin _ _).record rfl rfl).other rfl rfl rfl rfl rfl⟩
  | unwritten code => exact ⟨by simp, (fed.begin _ _).halt _⟩
  | @takes pos rest byte pending code held =>
    -- Line input leaves nothing pending, so there is a byte only in stream input.
    have stream (line : inputMode = .line) : pending = [] := by
      rw [fed.single line] at held
      cases held
    have stored := (fed.begin pos (.basic .input)).store
      ((List.append_nil _).trans held) stream rest
    rw [List.append_nil] at stored
    exact ⟨nofun, stored⟩
  | asks code spent => exact ⟨nofun, (fed.begin _ _).await⟩
  | unasked code spent => exact ⟨by simp, (fed.begin _ _).halt _⟩
  | breaks code => exact absurd code (plain _ _)

/-- A machine outside the debugger is fed nothing while it waits for nobody. -/
theorem Advances.fed (advances : machine.Advances after) (ready : machine.status = .ready)
    (fed : Fed inputMode prompt reads bytes [] machine)
    (plain : ∀ pos rest, machine.code ≠ .op pos .breakpoint rest) :
    after.status ≠ .stopped ∧ Fed inputMode prompt reads bytes (after.asked prompt) after := by
  cases advances with
  | leaves code loops zero =>
    -- The tests of loops have nothing to do with the input.
    refine ⟨by simp [ready], ?_⟩
    rw [asked, if_neg (by simp [ready])]
    exact fed.other rfl rfl rfl rfl rfl
  | repeats code loops nonzero allowed =>
    refine ⟨by simp [checked, ready], ?_⟩
    rw [asked, if_neg (by simp [checked, ready])]
    exact fed.other rfl rfl rfl rfl rfl
  | cut code around nonzero refused =>
    have checked : Fed inputMode prompt reads bytes [] machine.checked :=
      fed.other rfl rfl rfl rfl rfl
    exact ⟨by simp, checked.halt _⟩
  | ends code outside last => exact ⟨by simp, fed.halt _⟩
  | stops code debugging =>
    rw [fed.running] at debugging
    cases debugging
  | unprompted code debugging => exact ⟨by simp, fed.halt _⟩
  | executes running executes => exact executes.fed fed plain

/-- An input instruction that has waited is fed what the entry brings. -/
theorem Takes.fed {rest : Code} {entry : Entry} (takes : machine.Takes rest entry after)
    (spent : machine.pending = []) (fed : Fed inputMode prompt reads bytes prompt machine) :
    after.status ≠ .stopped ∧
      Fed inputMode prompt (reads + 1) (bytes ++ inputMode.brought entry) (after.asked prompt)
        after := by
  have noted := fed.recordEntry entry
  have nothing {entry : Entry} (empty : inputMode.brought entry = []) :
      bytes ++ inputMode.brought entry = bytes := by rw [empty, List.append_nil]
  -- Whatever the entry is, it has been read behind its prompt; only a line brings bytes.
  cases takes with
  | @stores text byte pending line =>
    rw [fed.mode] at line
    refine ⟨nofun, noted.store ?_ (fun single => ?_) rest⟩
    · rw [(machine.untouched_recordEntry _).pending, spent, List.nil_append]
      exact line
    · -- A line has one byte at most for line input.
      subst single
      cases text <;> cases line
      rfl
  | @skips text line =>
    rw [fed.mode] at line
    rw [nothing (show inputMode.brought (.line text) = [] from line)]
    exact ⟨nofun, noted.await⟩
  | @unasked text line =>
    rw [fed.mode] at line
    rw [nothing (show inputMode.brought (.line text) = [] from line)]
    exact ⟨by simp, noted.halt _⟩
  | exhausts report =>
    rw [nothing rfl]
    have ended := noted.record (rfl : (Event.inputExhausted machine.tape.pointer).inputs = []) rfl
    exact ⟨nofun, ended.other rfl rfl rfl rfl rfl⟩
  | failed reason =>
    rw [nothing rfl]
    exact ⟨by simp, noted.halt _⟩
  | cancelled =>
    rw [nothing rfl]
    have cancelled : Fed inputMode prompt (reads + 1) bytes []
        (machine.recordEntry .cancelled).cancel := noted.other rfl rfl rfl rfl rfl
    exact ⟨by simp, cancelled.halt _⟩

/-- Between two machines the program has stored no byte of input, or one, which has been written
into the current cell. -/
def Stores (before after : Machine) : Prop :=
  after.told Event.inputs = before.told Event.inputs ∨
    ∃ byte, after.told Event.inputs = before.told Event.inputs ++ [byte] ∧
      after.tape = before.tape.write byte

/-- What is left untouched stores nothing. -/
theorem Untouched.told_inputs (untouched : Untouched machine after) :
    after.told Event.inputs = machine.told Event.inputs :=
  untouched.told fun event foreign => by cases event <;> first | rfl | cases foreign

/-- The start of an instruction stores nothing. -/
theorem told_inputs_begin (machine : Machine) (pos : Nat) (opcode : Opcode) :
    (machine.begin pos opcode).told Event.inputs = machine.told Event.inputs :=
  machine.told_begin pos opcode fun _ _ _ _ => rfl

/-- A cancelled wait for a line stores nothing. -/
theorem told_inputs_cancel (machine : Machine) :
    (machine.recordEntry .cancelled).cancel.told Event.inputs = machine.told Event.inputs :=
  (machine.untouched_recordEntry .cancelled).told_inputs

/-- Only an input instruction with a byte pending stores one. -/
theorem Executes.stores (executes : machine.Executes after) : machine.Stores after := by
  -- What leaves the machine untouched behind the start of an instruction stores nothing.
  have begun {pos : Nat} {opcode : Opcode} (kept : (machine.begin pos opcode).Untouched after) :
      machine.Stores after := .inl (kept.told_inputs.trans (machine.told_inputs_begin pos opcode))
  cases executes with
  | enters code => exact .inl (machine.told_inputs_begin _ _)
  | acts code onTape act => exact .inl (machine.told_inputs_begin _ _)
  | faults code onTape act => exact begun (untouched_halt _ _)
  | @writes pos rest code =>
    have told := (machine.begin pos (.basic .output)).told_record (.output machine.tape.cell)
      Event.inputs
    exact .inl ((told.trans (List.append_nil _)).trans (machine.told_inputs_begin _ _))
  | unwritten code => exact begun (untouched_halt _ _)
  | @takes pos rest byte pending code held =>
    have told := (machine.begin pos (.basic .input)).told_record (.input byte) Event.inputs
    rw [machine.told_inputs_begin] at told
    exact .inr ⟨byte, told, rfl⟩
  | asks code spent => exact begun (untouched_await _)
  | unasked code spent => exact begun (untouched_halt _ _)
  | @breaks pos rest code =>
    -- A breakpoint is told behind the start of its instruction, and then the mode changes.
    have switched := (untouched_setMode
      ((machine.begin pos (.basic .breakpoint)).record (.breakpoint pos)) .debugging).told_inputs
    have told := (machine.begin pos (.basic .breakpoint)).told_record (.breakpoint pos)
      Event.inputs
    exact .inl ((switched.trans (told.trans (List.append_nil _))).trans
      (machine.told_inputs_begin _ _))

/-- A machine that waits for nobody stores a byte only by an instruction. -/
theorem Advances.stores (advances : machine.Advances after) : machine.Stores after := by
  cases advances with
  | executes running executes => exact executes.stores
  | leaves code loops zero => exact .inl rfl
  | repeats code loops nonzero allowed => exact .inl rfl
  | cut code around nonzero refused => exact .inl (untouched_halt machine.checked _).told_inputs
  | ends code outside last => exact .inl (machine.untouched_halt _).told_inputs
  | stops code debugging => exact .inl machine.untouched_pause.told_inputs
  | unprompted code debugging => exact .inl (machine.untouched_halt _).told_inputs

/-- The console stores nothing, but it may execute an instruction. -/
theorem Hears.stores {entry : Entry} (hears : machine.Hears entry after) :
    machine.Stores after := by
  have heard (text : Entry) := machine.untouched_recordEntry text
  cases hears with
  | goesOn heard executes =>
    -- What the console has heard is no input, and what it executes may store a byte.
    have kept := heard.untouched
    have stores := executes.stores
    rwa [Stores, kept.told_inputs, kept.tape] at stores
  | replies text => exact .inl ((heard _).trans (untouched_pause _)).told_inputs
  | unprompted text => exact .inl ((heard _).trans (untouched_halt _ _)).told_inputs
  | failed reason => exact .inl ((heard _).trans (untouched_halt _ _)).told_inputs
  | cancelled => exact .inl ((untouched_halt _ _).told_inputs.trans machine.told_inputs_cancel)

/-- An input instruction that has waited stores the first byte of a line that has one. -/
theorem Takes.stores_input {rest : Code} {entry : Entry} (takes : machine.Takes rest entry after) :
    machine.Stores after := by
  have heard (text : Entry) := machine.untouched_recordEntry text
  cases takes with
  | @stores text byte pending fed =>
    have told := (machine.recordEntry (.line text)).told_record (.input byte) Event.inputs
    rw [(heard _).told_inputs] at told
    -- The byte goes to the cell that was under the pointer before the line was read.
    refine .inr ⟨byte, told, ?_⟩
    show (machine.recordEntry (.line text)).tape.write byte = machine.tape.write byte
    rw [(heard _).tape]
  | skips fed => exact .inl ((heard _).trans (untouched_await _)).told_inputs
  | unasked fed => exact .inl ((heard _).trans (untouched_halt _ _)).told_inputs
  | exhausts report =>
    have noted := (heard (.ended report)).trans
      (untouched_record _ (rfl : (Event.inputExhausted machine.tape.pointer).isOwn = false))
    exact .inl noted.told_inputs
  | failed reason => exact .inl ((heard _).trans (untouched_halt _ _)).told_inputs
  | cancelled => exact .inl ((untouched_halt _ _).told_inputs.trans machine.told_inputs_cancel)

/-- Only an input instruction without a byte makes a machine wait for a line, and it changes neither
the tape nor what is pending. -/
theorem Executes.waits (executes : machine.Executes after) (waiting : after.status = .asking) :
    after.tape = machine.tape ∧ after.pending = machine.pending := by
  cases executes with
  | asks code spent => exact ⟨(untouched_await _).tape, (untouched_await _).pending⟩
  | _ => cases waiting

/-- A machine that comes to ask for a line has changed neither its tape nor what is pending. -/
theorem Advances.waits (advances : machine.Advances after) (waiting : after.status = .asking) :
    after.tape = machine.tape ∧ after.pending = machine.pending := by
  cases advances with
  | executes running executes => exact executes.waits waiting
  | leaves code loops zero => exact ⟨rfl, rfl⟩
  | repeats code loops nonzero allowed => exact ⟨rfl, rfl⟩
  | _ => cases waiting

/-- A console that comes to ask for a line has changed neither the tape nor what is pending. -/
theorem Hears.waits {entry : Entry} (hears : machine.Hears entry after)
    (waiting : after.status = .asking) :
    after.tape = machine.tape ∧ after.pending = machine.pending := by
  cases hears with
  | goesOn heard executes =>
    -- The console has touched nothing before the instruction.
    have kept := heard.untouched
    obtain ⟨tape, pending⟩ := executes.waits waiting
    exact ⟨tape.trans kept.tape, pending.trans kept.pending⟩
  | _ => cases waiting

/-- An input instruction that asks again has changed neither the tape nor what is pending. -/
theorem Takes.waits {rest : Code} {entry : Entry} (takes : machine.Takes rest entry after)
    (waiting : after.status = .asking) :
    after.tape = machine.tape ∧ after.pending = machine.pending := by
  cases takes with
  | @skips text fed =>
    have kept := (machine.untouched_recordEntry (.line text)).trans (untouched_await _)
    exact ⟨kept.tape, kept.pending⟩
  | _ => cases waiting

end

end Machine

namespace Session

/-- What the input instructions have got so far is what the entries read so far have brought. -/
def Intake (inputMode : InputMode) (prompt : List Event) (script : List Entry)
    (session : Session) : Prop :=
  ∃ reads, session.script = script.drop reads ∧ session.machine.status ≠ .stopped ∧
    session.machine.Fed inputMode prompt reads (inputMode.decode (script.take reads))
      (session.machine.asked prompt)

variable {inputMode : InputMode} {prompt : List Event} {script : List Entry} {session : Session}

/-- One move. -/
theorem Intake.step (intake : session.Intake inputMode prompt script)
    (attentive : session.machine.Attentive)
    (plain : ∀ pos rest, session.machine.code ≠ .op pos .breakpoint rest) :
    session.step.Intake inputMode prompt script := by
  obtain ⟨reads, left, calm, fed⟩ := intake
  have deed := deed_step attentive
  have bare := Machine.Fed.bare_iff.mpr fed
  have script_step := session.script_step
  -- It is enough to look at the machine without its output.
  have whole {reads : Nat} (left : session.step.script = script.drop reads)
      (result : session.step.machine.bare.status ≠ .stopped ∧
        session.step.machine.bare.Fed inputMode prompt reads (inputMode.decode (script.take reads))
          (session.step.machine.bare.asked prompt)) : session.step.Intake inputMode prompt script :=
    ⟨reads, left, result.1, Machine.Fed.bare_iff.mp result.2⟩
  generalize session.step.machine.bare = after at deed whole
  cases deed with
  | advances ready advances =>
    -- Nothing is handed out, so the entries that have been read stay the same ones.
    have idle : session.machine.asked prompt = [] := by simp [Machine.asked, ready]
    have unasked : session.handed? = none := by simp [handed?, ready]
    rw [idle] at bare
    rw [unasked] at script_step
    exact whole (script_step.trans left) (advances.fed ready bare plain)
  | hears stopped handed hears => exact absurd stopped calm
  | takes asking handed spent code takes =>
    have waiting : session.machine.asked prompt = prompt := by simp [Machine.asked, asking]
    rw [waiting] at bare
    rw [handed] at script_step
    have result := takes.fed spent bare
    -- The entry is the next one of the script.
    have next : session.handed? = some ((script.drop reads).headD .endOfInput) := by
      rw [← left]
      simp [handed?, asking]
    rw [Option.some.inj (handed.symm.trans next), ← InputMode.decode_take_succ] at result
    refine whole ?_ result
    rw [script_step, left, Option.isSome_some, if_pos rfl, List.tail_drop]
  | rests halted =>
    rw [step_of_halted halted]
    exact ⟨reads, left, calm, fed⟩

/-- A move stores no byte of input, or one, which it writes into the current cell. -/
theorem stores_step (attentive : session.machine.Attentive) :
    session.machine.Stores session.step.machine := by
  have deed := deed_step attentive
  -- Deliveries to the sink are no input, and the tape is the same without them.
  have told (machine : Machine) : machine.bare.told Event.inputs = machine.told Event.inputs :=
    machine.told_bare fun _ => rfl
  suffices stores : session.machine.bare.Stores session.step.machine.bare by
    rwa [Machine.Stores, told, told] at stores
  generalize session.step.machine.bare = after at deed ⊢
  cases deed with
  | advances ready advances => exact advances.stores
  | hears stopped handed hears => exact hears.stores
  | takes asking handed spent code takes => exact takes.stores_input
  | rests halted => exact .inl rfl

/-- A move after which a machine waits for a line has changed neither the tape nor what is
pending. -/
theorem waits_step (attentive : session.machine.Attentive)
    (waiting : session.step.machine.status = .asking) :
    session.step.machine.tape = session.machine.tape ∧
      session.step.machine.pending = session.machine.pending := by
  have deed := deed_step attentive
  have status : session.step.machine.bare.status = .asking := waiting
  show session.step.machine.bare.tape = session.machine.bare.tape ∧
    session.step.machine.bare.pending = session.machine.bare.pending
  generalize session.step.machine.bare = after at deed status ⊢
  cases deed with
  | advances ready advances => exact advances.waits status
  | hears stopped handed hears => exact hears.waits status
  | takes asking handed spent code takes => exact takes.waits status
  | rests halted => exact ⟨rfl, rfl⟩

/-- The end of the input changes neither the tape nor what is pending. -/
theorem exhausts_step (attentive : session.machine.Attentive)
    (asking : session.machine.status = .asking) {report : Bytes}
    (ended : session.handed? = some (.ended report)) :
    session.step.machine.tape = session.machine.tape ∧
      session.step.machine.pending = session.machine.pending := by
  have deed := deed_step attentive
  show session.step.machine.bare.tape = session.machine.bare.tape ∧
    session.step.machine.bare.pending = session.machine.bare.pending
  generalize session.step.machine.bare = after at deed ⊢
  cases deed with
  | advances ready advances => simp [ready] at asking
  | hears stopped handed hears => simp [stopped] at asking
  | takes _ handed spent code takes =>
    obtain rfl := Option.some.inj (handed.symm.trans ended)
    cases takes
    exact ⟨rfl, rfl⟩
  | rests halted => simp [Machine.isHalted, asking] at halted

/-- An input instruction that meets the end of the input, behind any number of lines without a byte,
changes neither the tape nor what is pending. -/
theorem exhausts_iterate (waits : Nat) :
    ∀ {session : Session}, session.machine.Attentive →
      (∀ moves, moves < waits → (step^[moves + 1] session).machine.status = .asking) →
      (step^[waits] session).machine.Attentive ∧
        (step^[waits] session).machine.tape = session.machine.tape ∧
        (step^[waits] session).machine.pending = session.machine.pending := by
  -- The first move leads to the wait or goes on with it, and the others go on with it.
  induction waits with
  | zero => exact fun attentive _ => ⟨attentive, rfl, rfl⟩
  | succ waits ih =>
    intro session attentive waiting
    obtain ⟨still, tape, pending⟩ := ih (attentive_step attentive) fun moves fewer => by
      have later := waiting (moves + 1) (Nat.succ_lt_succ fewer)
      rwa [Function.iterate_succ_apply] at later
    obtain ⟨first, left⟩ := waits_step attentive (waiting 0 (Nat.succ_pos _))
    rw [Function.iterate_succ_apply]
    exact ⟨still, tape.trans first, pending.trans left⟩

/-- A program without the symbol of the breakpoint never comes to one. -/
theorem Reaches.plain {source : Bytes} {blueprint : Blueprint}
    (compiled : compile source = .ok blueprint.program) (plain : ascii '!' ∉ source)
    (reached : Reaches ⟨blueprint.machine, script⟩ session) (pos : Nat) (rest : Code) :
    session.machine.code ≠ .op pos .breakpoint rest := by
  intro code
  obtain ⟨place, stands⟩ := reached.standsAt compiled
  have next : session.machine.next? = some (pos, .basic .breakpoint) := by
    simp [Machine.next?, code]
  have symbol := stands.next next
  have listing : session.machine.listing = blueprint.program.listing.toArray :=
    congrArg (fun kept => kept.2.1) reached.fixed
  -- The listing has no symbol that the source has not.
  rw [listing, List.getElem?_toArray, listing_of_compile compiled] at symbol
  exact plain (List.mem_filter.mp (List.mem_of_getElem? symbol)).1

/-- Whatever a fresh machine comes to without the debugger has got what has been read for it. -/
theorem Reaches.intake {source : Bytes} {blueprint : Blueprint}
    (compiled : compile source = .ok blueprint.program) (plain : ascii '!' ∉ source)
    (running : blueprint.debugging = false)
    (reached : Reaches ⟨blueprint.machine, script⟩ session) :
    session.Intake blueprint.inputMode (if blueprint.prompting then [.prompted] else [])
      script := by
  -- Pending bytes and the rest of the script go over from one run to the next.
  induction reached with
  | refl =>
    refine ⟨0, rfl, by simp [Blueprint.machine], ?_, rfl, rfl, rfl, rfl, fun _ => rfl, rfl⟩
    simp [Blueprint.machine, running]
  | step reached ih =>
    exact ih.step reached.attentive (reached.plain compiled plain)
  | @rerun session cancellation reached halted ih =>
    obtain ⟨reads, left, -, fed⟩ := ih
    have idle : session.machine.status ≠ .asking := by
      intro asking
      simp [Machine.isHalted, asking] at halted
    rw [Machine.asked, if_neg idle] at fed
    exact ⟨reads, left, by simp [Session.rerun, Session.restart, Machine.restart],
      fed.other rfl rfl rfl rfl rfl⟩

end Session

/-- Every byte of input reaches the program in order, once. Whatever the fresh machine of a program
without breakpoints comes to outside the debugger, in any number of runs: the bytes stored are a
beginning of those in the script; with those pending they are just the bytes of the entries that
have been read, and line input leaves nothing pending; each further move stores no byte, or one,
and then just the current cell has taken that byte; an input instruction that meets the end of
the input changes neither the tape nor what is pending; and each answer of the line source stands
behind one prompt, which the user gets to see as a text, if the user is asked. -/
theorem input_arrives_in_order {source : Bytes} {blueprint : Blueprint}
    (compiled : compile source = .ok blueprint.program) (plain : ascii '!' ∉ source)
    (running : blueprint.debugging = false) {script : List Entry} {session : Session}
    (reached : Session.Reaches ⟨blueprint.machine, script⟩ session) :
    let stored := session.machine.told Event.inputs
    let answers := session.machine.told Event.answer
    let prompt := if blueprint.prompting then [Event.prompted] else []
    stored <+: blueprint.inputMode.decode script ∧
    stored ++ session.machine.pending =
      blueprint.inputMode.decode (script.take answers.length) ∧
    session.script = script.drop answers.length ∧
    (blueprint.inputMode = .line → session.machine.pending = []) ∧
    (1 ≤ blueprint.tapeLength → session.step.machine.told Event.inputs = stored ∨
      ∃ byte, session.step.machine.told Event.inputs = stored ++ [byte] ∧
        session.machine.tape.Took byte session.step.machine.tape) ∧
    (∀ waits report, 0 < waits →
      (∀ moves, moves < waits → (Session.step^[moves + 1] session).machine.status = .asking) →
      (Session.step^[waits] session).handed? = some (.ended report) →
      (Session.step^[waits + 1] session).machine.tape = session.machine.tape ∧
        (Session.step^[waits + 1] session).machine.pending = session.machine.pending) ∧
    (session.machine.told Event.exchange = (answers.flatMap fun answer => prompt ++ [answer]) ++
      if session.machine.status = .asking then prompt else []) ∧
    ∀ config logger, prompt.flatMap (Runner.messages config logger) =
      if blueprint.prompting then [.err (utf8 "> ")] else [] := by
  intro stored answers prompt
  obtain ⟨reads, left, -, fed⟩ := reached.intake compiled plain running
  obtain rfl : answers.length = reads := fed.reads
  refine ⟨?_, fed.taken, left, fed.single, fun cells => ?_, ?_, fed.exchanges,
    fun config logger => ?_⟩
  · -- The entries that have been read come first in the script.
    have part : blueprint.inputMode.decode (script.take answers.length) <+:
        blueprint.inputMode.decode script :=
      ⟨blueprint.inputMode.decode (script.drop answers.length), by
        rw [InputMode.decode, InputMode.decode, ← List.flatMap_append, List.take_append_drop]
        rfl⟩
    exact (fed.taken ▸ List.prefix_append stored _).trans part
  · refine (Session.stores_step reached.attentive).imp id fun ⟨byte, told, written⟩ => ?_
    exact ⟨byte, told, written ▸ Tape.took_write (reached.tape cells).1 byte⟩
  · intro waits report positive waiting ended
    obtain ⟨still, tape, pending⟩ := Session.exhausts_iterate waits reached.attentive waiting
    have asking : (Session.step^[waits] session).machine.status = .asking := by
      have last := waiting (waits - 1) (Nat.sub_lt positive Nat.one_pos)
      rwa [Nat.sub_add_cancel positive] at last
    obtain ⟨same, left⟩ := Session.exhausts_step still asking ended
    rw [Function.iterate_succ_apply']
    exact ⟨same.trans tape, left.trans pending⟩
  · simp only [prompt]
    split <;> rfl

/-- A program takes the bytes of a line one after the other, each into the current cell, and then
meets the end of the input, which changes nothing; the user is asked for the line and for the
end. -/
theorem input_arrives_in_order_exhausted :
    let program : Program := ⟨.op 0 .input (.op 1 .input (.op 2 .input .done)), 3, 0⟩
    let blueprint : Blueprint :=
      { Blueprint.ofProgram program with tapeLength := 1, inputMode := .stream, prompting := true }
    let start : Session := ⟨blueprint.machine, [.line (utf8 "x")]⟩
    let session := start.step.step.step
    session.machine.told Event.inputs = [ascii 'x', newline] ∧
      session.machine.told Event.inputs <+: blueprint.inputMode.decode [.line (utf8 "x")] ∧
      start.step.machine.tape.Took (ascii 'x') start.step.step.machine.tape ∧
      start.step.step.machine.tape.Took newline session.machine.tape ∧
      session.machine.told Event.exchange = [.prompted, .read (utf8 "x")] ∧
      session.step.step.machine.tape = session.machine.tape := by
  intro program blueprint start session
  have compiled : compile (utf8 ",,,") = .ok blueprint.program := rfl
  have plain : ascii '!' ∉ utf8 ",,," := by decide +kernel
  have reached : start.Reaches session := .step (.step (.step .refl))
  obtain ⟨stored, -, -, -, -, exhausted, exchange, -⟩ :=
    input_arrives_in_order compiled plain rfl reached
  -- The byte that a move adds to those stored is the one that the cell has taken.
  have took {before : Session} (reaches : start.Reaches before) {byte : UInt8}
      (adds : before.step.machine.told Event.inputs =
        before.machine.told Event.inputs ++ [byte]) :
      before.machine.tape.Took byte before.step.machine.tape := by
    obtain ⟨-, -, -, -, moved, -⟩ := input_arrives_in_order compiled plain rfl reaches
    rcases moved (by decide) with same | ⟨other, told, took⟩
    · exact absurd (adds.symm.trans same) (by simp)
    · obtain rfl : byte = other := by simpa using adds.symm.trans told
      exact took
  have asking : session.step.machine.status = .asking := by decide +kernel
  have ended : session.step.handed? = some (.ended endMessage) := by decide +kernel
  have waiting (moves : Nat) (fewer : moves < 1) :
      (Session.step^[moves + 1] session).machine.status = .asking := by
    obtain rfl : moves = 0 := by omega
    exact asking
  obtain ⟨kept, -⟩ := exhausted 1 endMessage Nat.one_pos waiting ended
  have moved (session : Session) : Session.step^[1 + 1] session = session.step.step := rfl
  rw [moved] at kept
  exact ⟨by decide +kernel, stored, took (.step .refl) (by decide +kernel),
    took (.step (.step .refl)) (by decide +kernel), exchange.trans (by decide +kernel), kept⟩

end TapeMachine
