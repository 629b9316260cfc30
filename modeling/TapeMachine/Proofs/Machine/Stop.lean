import TapeMachine.Proofs.Machine.Deed
import TapeMachine.Proofs.Machine.Emission
import TapeMachine.Proofs.Machine.Prompt

/-! A stop of the console: it hears entry after entry until one lets the machine go on, and changes
nothing but the mode. -/

namespace TapeMachine

namespace Entry

/-- Whether an entry ends a stop: a line that says so, the end of the input, or a failure. -/
def resumes : Entry → Bool
  -- The words of the two commands that do not leave the machine stopped.
  | line text => ["next", "n", "exit", "quit", "q"].any fun word => utf8 word = trimBlank text
  | ended _ | failed _ | cancelled => true

/-- Whether an entry leaves the debugger. -/
def quits : Entry → Bool
  | line text => ["exit", "quit", "q"].any fun word => utf8 word = trimBlank text
  | ended _ => true
  | failed _ | cancelled => false

/-- Why the line source has failed, if it has. -/
def cause? : Entry → Option SourceError
  | failed reason => some (.failed reason)
  | cancelled => some .cancelled
  | line _ | ended _ => none

/-- The first entry that ends a stop stands behind those that do not, and without any it is the end
of the input. -/
theorem getElem?_length_takeWhile (script : List Entry) :
    script[(script.takeWhile fun entry => !entry.resumes).length]?.getD .endOfInput =
      (script.find? resumes).getD .endOfInput := by
  induction script with
  | nil => rfl
  | cons entry rest ih => cases resumes : entry.resumes <;> simp [resumes, ih]

/-- The stop has an end, whatever the script is. -/
theorem resumes_last (script : List Entry) :
    ((script.find? resumes).getD .endOfInput).resumes = true := by
  cases found : script.find? resumes with
  | none => rfl
  | some entry => exact List.find?_some found

end Entry

/-- A line that ends a stop is one of two commands, and is not blank. -/
theorem Command.parse?_of_resumes {text : Bytes} (resumes : (Entry.line text).resumes = true) :
    trimBlank text ≠ [] ∧
      Command.parse? text = some (if (Entry.line text).quits then .exit else .next) := by
  simp only [Entry.resumes, List.any_cons, List.any_nil, Bool.or_eq_true, decide_eq_true_eq,
    Bool.false_eq_true, or_false] at resumes
  -- Each of the five words is looked up by itself.
  rcases resumes with word | word | word | word | word <;>
    simp only [Entry.quits, Command.parse?, ← word] <;>
    exact ⟨by decide +kernel, by decide +kernel⟩

/-- A line that does not end a stop is neither of the two commands that do. -/
theorem Command.parse?_of_not_resumes {text : Bytes}
    (silent : (Entry.line text).resumes = false) :
    Command.parse? text ≠ some .next ∧ Command.parse? text ≠ some .exit := by
  simp only [Entry.resumes, List.any_cons, List.any_nil, Bool.or_eq_false_iff,
    decide_eq_false_iff_not, and_true] at silent
  -- A command is only found by one of its words.
  constructor <;> intro found <;> have known := List.find?_some found <;>
    simp [Command.words, silent] at known

namespace Machine

/-- What the console replies to an entry before it prompts again: nothing to a blank line, a
complaint about an unknown command, and the answer to a known one. -/
def replyText (machine : Machine) (pos : Nat) (opcode : Opcode) : Entry → Bytes
  | .line text =>
    if trimBlank text = [] then []
    else match Command.parse? text with
    | none => linesText [Command.complaint text]
    | some request => machine.answerText pos opcode request
  | .ended _ | .failed _ | .cancelled => []

/-- How the machine goes on behind the entry that ends a stop: it executes the next instruction, or
its run ends with the failure of the line source. -/
def resume (machine : Machine) (entry : Entry) : Machine :=
  match entry.cause? with
  | none => machine.execute
  | some (.failed reason) => machine.finish (some (.readCommand (.failed reason)))
  | some .cancelled => machine.cancel.finish (some (.readCommand .cancelled))

/-- The console has heard some entries and waits for another one. It has touched nothing and shown
its prompt in front of each read, behind the reply to the entry before, and all of that has reached
the sink. -/
structure Waits (start : Machine) (pos : Nat) (opcode : Opcode) (heard : List Entry)
    (machine : Machine) : Prop where
  stopped : machine.status = .stopped
  mode : machine.mode = start.mode
  kept : Untouched start machine
  flushed : machine.Flushed
  shown : machine.told Event.sunk =
    start.emitted ++ Console.prompt pos start.tape.pointer opcode ++ heard.flatMap fun entry =>
      start.replyText pos opcode entry ++ Console.prompt pos start.tape.pointer opcode
  reads : (machine.told Event.handed).length = (start.told Event.handed).length + heard.length

/-- The console has heard the last entry of its stop. It has touched nothing but the mode, and shown
nothing behind the last prompt. -/
structure Released (start : Machine) (pos : Nat) (opcode : Opcode) (heard : List Entry)
    (last : Entry) (machine : Machine) : Prop where
  mode : machine.mode = if last.quits then .running else start.mode
  kept : Untouched start machine
  shown : machine.emitted =
    start.emitted ++ Console.prompt pos start.tape.pointer opcode ++ heard.flatMap fun entry =>
      start.replyText pos opcode entry ++ Console.prompt pos start.tape.pointer opcode
  reads : (machine.told Event.handed).length = (start.told Event.handed).length + heard.length + 1

section

variable {machine : Machine} {pos : Nat} {opcode : Opcode}

/-- Under the debugger a machine stops in front of its next instruction. -/
theorem advance_of_debugging (debugging : machine.mode = .debugging)
    (next : machine.next? = some (pos, opcode)) : machine.advance = machine.stop pos opcode := by
  cases code : machine.code with
  | done => simp only [next?, code, reduceCtorEq] at next
  | op place action rest =>
    simp only [next?, code] at next
    cases next
    simp only [advance, code, debugging, if_true]
  | loop place body rest =>
    simp only [next?, code] at next
    cases next
    simp only [advance, code, debugging, if_true]

/-- A machine that has stopped in front of an instruction gives what it is handed to the console. -/
theorem receive_of_next (stopped : machine.status = .stopped)
    (next : machine.next? = some (pos, opcode)) (entry : Entry) :
    machine.receive entry = (machine.recordEntry entry).receiveCommand pos opcode entry := by
  cases code : machine.code with
  | done => simp only [next?, code, reduceCtorEq] at next
  | op place action rest =>
    simp only [next?, code] at next
    cases next
    simp only [receive, stopped, code]
  | loop place body rest =>
    simp only [next?, code] at next
    cases next
    simp only [receive, stopped, code]

/-- What leaves the place in the program alone leaves the next instruction alone. -/
theorem Untouched.next? {before after : Machine} (kept : Untouched before after) :
    after.next? = before.next? := by
  simp only [Machine.next?, kept.code]

/-- Without its output the machine waits for the same thing. -/
@[simp] theorem status_bare (machine : Machine) : machine.bare.status = machine.status := rfl

/-- Without its output the machine has the same mode. -/
@[simp] theorem mode_bare (machine : Machine) : machine.bare.mode = machine.mode := rfl

/-- On an endless sink a stop changes nothing but the status and the output. -/
theorem bare_stop_of_unlimited (endless : machine.writer.Unlimited) (pos : Nat)
    (opcode : Opcode) : (machine.stop pos opcode).bare = machine.bare.pause := by
  refine (machine.bare_stop pos opcode).resolve_right fun halted => ?_
  -- A run that has ended does not wait.
  have waiting := status_stop_of_unlimited endless pos opcode
  rw [← status_bare, halted, status_halt] at waiting
  cases waiting

/-- A stop in the console leaves the mode as it is. -/
theorem mode_stop_of_unlimited (endless : machine.writer.Unlimited) (pos : Nat)
    (opcode : Opcode) : (machine.stop pos opcode).mode = machine.mode := by
  rw [← mode_bare, bare_stop_of_unlimited endless]
  rfl

/-- A stop in the console tells of nothing but its delivery. -/
theorem told_stop_of_unlimited {α : Type} (endless : machine.writer.Unlimited) (pos : Nat)
    (opcode : Opcode) {view : Event → List α}
    (silent : ∀ delivery, view (.delivered delivery) = []) :
    (machine.stop pos opcode).told view = machine.told view := by
  rw [← told_bare _ silent, bare_stop_of_unlimited endless, ← machine.told_bare silent]
  rfl

/-- The replies depend on nothing that a stop changes. -/
theorem replyText_congr {other : Machine} (kept : Untouched machine other)
    (mode : other.mode = machine.mode) (entry : Entry) :
    other.replyText pos opcode entry = machine.replyText pos opcode entry := by
  cases entry with
  | line text =>
    have same (request : Command) : other.answerText pos opcode request =
        machine.answerText pos opcode request := by
      cases request <;> simp only [answerText, kept.listing, kept.tape, kept.steps, mode]
    simp only [replyText, same]
  | ended report => rfl
  | failed reason => rfl
  | cancelled => rfl

/-- A line that ends a stop lets the machine execute its next instruction. -/
theorem command_of_resumes {text : Bytes} (resumes : (Entry.line text).resumes = true) :
    machine.command pos opcode text =
      (if (Entry.line text).quits then machine.setMode .running else machine).execute := by
  obtain ⟨some_word, known⟩ := Command.parse?_of_resumes resumes
  unfold command
  rw [if_neg some_word, known]
  -- The word decides whether the debugger is left before.
  cases (Entry.line text).quits <;> rfl

/-- A line that does not end a stop is replied to, and then the console stops again. -/
theorem command_of_not_resumes (machine : Machine) (pos : Nat) (opcode : Opcode) {text : Bytes}
    (silent : (Entry.line text).resumes = false) :
    ∃ replied, Untouched machine replied ∧ replied.bare = machine.bare ∧
      machine.command pos opcode text = replied.stop pos opcode := by
  obtain ⟨notNext, notExit⟩ := Command.parse?_of_not_resumes silent
  unfold command
  split
  · -- A blank line gets a prompt and no reply.
    exact ⟨machine, .refl machine, rfl, rfl⟩
  · cases known : Command.parse? text with
    | none => exact ⟨_, untouched_printLine _ _, bare_printLine _ _, rfl⟩
    | some request =>
      -- The two commands that go on have other words.
      cases request with
      | next => exact absurd known notNext
      | exit => exact absurd known notExit
      | code => exact ⟨_, untouched_answer _ _ _ .code, bare_answer _ _ _ _, rfl⟩
      | mem => exact ⟨_, untouched_answer _ _ _ .mem, bare_answer _ _ _ _, rfl⟩
      | info => exact ⟨_, untouched_answer _ _ _ .info, bare_answer _ _ _ _, rfl⟩
      | help => exact ⟨_, untouched_answer _ _ _ .help, bare_answer _ _ _ _, rfl⟩

/-- What is put out for a line that does not end a stop is a reply and a prompt. -/
theorem commandText_of_not_resumes (machine : Machine) (pos : Nat) (opcode : Opcode)
    {text : Bytes} (silent : (Entry.line text).resumes = false) :
    machine.commandText pos opcode text = machine.replyText pos opcode (.line text) ++
      Console.prompt pos machine.tape.pointer opcode := by
  obtain ⟨notNext, notExit⟩ := Command.parse?_of_not_resumes silent
  unfold commandText replyText
  -- What the prompt says does not matter here.
  generalize Console.prompt pos machine.tape.pointer opcode = prompt
  dsimp only
  split
  · rfl
  · cases known : Command.parse? text with
    | none => rfl
    | some request =>
      cases request with
      | next => exact absurd known notNext
      | exit => exact absurd known notExit
      | code => rfl
      | mem => rfl
      | info => rfl
      | help => rfl

/-- The mode is the one that it is set to. -/
theorem mode_setMode (machine : Machine) (mode : Mode) : (machine.setMode mode).mode = mode := by
  unfold setMode
  split
  · assumption
  · rfl

/-- A change of the mode is told by nothing but a view of such changes. -/
theorem told_setMode {α : Type} (machine : Machine) (mode : Mode) {view : Event → List α}
    (silent : view (.modeChange mode) = []) :
    (machine.setMode mode).told view = machine.told view := by
  unfold setMode
  split
  · rfl
  · rw [told_record, silent, List.append_nil]
    rfl

/-- A change of the mode puts out nothing. -/
theorem emitted_setMode (machine : Machine) (mode : Mode) :
    (machine.setMode mode).emitted = machine.emitted := by
  rw [emitted, told_setMode machine mode rfl, writer_setMode]
  rfl

/-- An answer of the line source is one read. -/
theorem length_handed_recordEntry (machine : Machine) (entry : Entry) :
    ((machine.recordEntry entry).told Event.handed).length =
      (machine.told Event.handed).length + 1 := by
  cases entry <;> simp [recordEntry, Event.handed]

end

section

variable {start machine : Machine} {pos : Nat} {opcode : Opcode} {heard : List Entry}

/-- A machine that has flushed its output has nothing in its buffer. -/
theorem Flushed.emitted (flushed : machine.Flushed) :
    machine.emitted = machine.told Event.sunk := by
  rw [Machine.emitted, flushed.2, List.append_nil]

/-- A stop begins with a prompt. -/
theorem waits_advance (ready : start.status = .ready) (debugging : start.mode = .debugging)
    (next : start.next? = some (pos, opcode)) (endless : start.writer.Unlimited) :
    Waits start pos opcode [] start.advance := by
  have stops := advance_of_debugging debugging next
  have turn := turn_advance ready
  have text : start.advanceText = Console.prompt pos start.tape.pointer opcode := by
    simp only [advanceText, next, debugging, if_true]
  rw [stops, text] at turn
  have kept := start.untouched_stop pos opcode
  have waiting := status_stop_of_unlimited endless pos opcode
  have mode := mode_stop_of_unlimited endless pos opcode
  have reads : (start.stop pos opcode).told Event.handed = start.told Event.handed :=
    told_stop_of_unlimited endless pos opcode fun _ => rfl
  rw [stops]
  generalize start.stop pos opcode = machine at *
  have flushed : machine.Flushed := by simpa only [Settled, waiting] using turn.settled
  refine ⟨waiting, mode, kept, flushed, ?_, by rw [reads]; rfl⟩
  rw [← flushed.emitted, turn.added flushed.1, List.flatMap_nil, List.append_nil]

/-- The console waits in front of the instruction where the stop began. -/
theorem Waits.ahead (waits : Waits start pos opcode heard machine)
    (next : start.next? = some (pos, opcode)) : machine.next? = some (pos, opcode) :=
  waits.kept.next?.trans next

variable (waits : Waits start pos opcode heard machine) (next : start.next? = some (pos, opcode))
include waits next

/-- An entry that does not end the stop gets its reply and a new prompt. -/
theorem Waits.hear (endless : start.writer.Unlimited) {entry : Entry}
    (silent : entry.resumes = false) :
    Waits start pos opcode (heard ++ [entry]) (machine.receive entry) := by
  -- Only lines can leave the machine stopped.
  cases entry with
  | ended report => cases silent
  | failed reason => cases silent
  | cancelled => cases silent
  | line text =>
    have ahead := waits.ahead next
    have noted := waits.kept.trans (machine.untouched_recordEntry (.line text))
    have counted := machine.length_handed_recordEntry (.line text)
    have same : (machine.recordEntry (.line text)).mode = machine.mode := rfl
    have turn := turn_receive (.inl waits.stopped) waits.flushed (.line text)
    have said : machine.receiveText (.line text) = start.replyText pos opcode (.line text) ++
        Console.prompt pos start.tape.pointer opcode := by
      have reply := commandText_of_not_resumes machine pos opcode silent
      rw [replyText_congr waits.kept waits.mode, waits.kept.tape] at reply
      simpa only [receiveText, waits.stopped, ahead] using reply
    rw [said] at turn
    rw [receive_of_next waits.stopped ahead] at turn ⊢
    generalize machine.recordEntry (.line text) = recorded at *
    obtain ⟨replied, listened, unseen, stops⟩ :=
      command_of_not_resumes recorded pos opcode silent
    have unlimited := (noted.trans listened).unlimited endless
    have waiting := status_stop_of_unlimited unlimited pos opcode
    have mode := (mode_stop_of_unlimited unlimited pos opcode).trans
      ((congrArg Machine.mode unseen).trans (same.trans waits.mode))
    have reads : (replied.stop pos opcode).told Event.handed = recorded.told Event.handed := by
      rw [told_stop_of_unlimited unlimited pos opcode fun _ => rfl,
        ← replied.told_bare fun _ => rfl, unseen, recorded.told_bare fun _ => rfl]
    have kept := (noted.trans listened).trans (replied.untouched_stop pos opcode)
    simp only [receiveCommand, stops] at turn ⊢
    generalize replied.stop pos opcode = after at *
    have flushed : after.Flushed := by simpa only [Settled, waiting] using turn.settled
    refine ⟨waiting, mode, kept, flushed, ?_, ?_⟩
    · rw [← flushed.emitted, turn.added flushed.1, waits.flushed.emitted, waits.shown,
        List.flatMap_append, List.flatMap_singleton, List.append_assoc]
    · rw [reads, counted, waits.reads, List.length_append, List.length_singleton, Nat.add_assoc]

/-- The last entry of the stop is read, and then the machine goes on. -/
theorem Waits.release {last : Entry} (resumes : last.resumes = true) :
    ∃ released, machine.receive last = released.resume last ∧
      Released start pos opcode heard last released := by
  have ahead := waits.ahead next
  have noted := waits.kept.trans (machine.untouched_recordEntry last)
  have counted := machine.length_handed_recordEntry last
  have same : (machine.recordEntry last).mode = machine.mode := by cases last <;> rfl
  have shown := (machine.emitted_recordEntry last).trans (waits.flushed.emitted.trans waits.shown)
  rw [receive_of_next waits.stopped ahead]
  generalize machine.recordEntry last = recorded at *
  have stayed (quits : last.quits = false) : Released start pos opcode heard last recorded := by
    refine ⟨?_, noted, shown, ?_⟩
    · rw [quits, same, waits.mode]
      rfl
    · rw [counted, waits.reads]
  -- Leaving the debugger is an event of its own, but neither a read nor output.
  have left (quits : last.quits = true) {closed : Machine} (kept : Untouched recorded closed)
      (output : closed.emitted = recorded.emitted)
      (reads : closed.told Event.handed = recorded.told Event.handed) :
      Released start pos opcode heard last (closed.setMode .running) := by
    refine ⟨?_, (noted.trans kept).trans (closed.untouched_setMode .running), ?_, ?_⟩
    · rw [quits, mode_setMode]
      rfl
    · rw [emitted_setMode, output, shown]
    · rw [told_setMode closed .running rfl, reads, counted, waits.reads]
  cases last with
  | line text =>
    rw [receiveCommand, command_of_resumes resumes]
    cases quits : (Entry.line text).quits with
    | true => exact ⟨_, rfl, left quits (.refl recorded) rfl rfl⟩
    | false => exact ⟨_, rfl, stayed quits⟩
  | ended report =>
    -- The end of the input leaves a note before the debugger is left.
    have told := recorded.told_record (.consoleClosed pos) Event.handed
    rw [show (Event.consoleClosed pos).handed = [] from rfl, List.append_nil] at told
    exact ⟨_, rfl, left rfl (recorded.untouched_record rfl) (recorded.emitted_record rfl) told⟩
  | failed reason => exact ⟨recorded, rfl, stayed rfl⟩
  | cancelled => exact ⟨recorded, rfl, stayed rfl⟩

end

end Machine

/-- A stop of the console is read-only and hears exactly its commands. Whatever the state of a
machine that stops under the debugger in front of an instruction, and whatever its line source hands
out: as long as the entries do not end the stop, each of them gets a reply and a new prompt, and the
console waits for the next one; the first entry that does is the last one that it hears. Each prompt
names the position of the instruction, the data pointer and the symbol. Behind each prompt there is
exactly one read, which finds the prompt in the sink. Nothing is touched but the
mode, which is left alone unless the last entry leaves the debugger; and then the machine executes
the instruction, or its run ends with the error of the line source if the last entry is a
failure. -/
theorem console_stop_hears_commands {machine : Machine} (ready : machine.status = .ready)
    (debugging : machine.mode = .debugging) {pos : Nat} {opcode : Opcode}
    (next : machine.next? = some (pos, opcode)) (endless : machine.writer.Unlimited)
    (script : List Entry) :
    let heard := script.takeWhile fun entry => !entry.resumes
    let last := (script.find? Entry.resumes).getD .endOfInput
    Console.Prompts pos machine.tape.pointer opcode.symbol
      (Console.prompt pos machine.tape.pointer opcode) ∧
    (∀ asked ≤ heard.length, ∃ waiting,
      Session.step^[asked + 1] ⟨machine, script⟩ = ⟨waiting, script.drop asked⟩ ∧
      machine.Waits pos opcode (heard.take asked) waiting) ∧
    last.resumes = true ∧
    ∃ released, Session.step^[heard.length + 2] ⟨machine, script⟩ =
        ⟨released.resume last, script.drop (heard.length + 1)⟩ ∧
      machine.Released pos opcode heard last released := by
  intro heard last
  obtain ⟨rest, split⟩ : ∃ rest, script = heard ++ rest :=
    ⟨_, List.takeWhile_append_dropWhile.symm⟩
  have hears (waiting : Machine) (stopped : waiting.status = .stopped) (asked : Nat) :
      Session.step ⟨waiting, script.drop asked⟩ =
        ⟨waiting.receive (script[asked]?.getD .endOfInput), script.drop (asked + 1)⟩ := by
    simp only [Session.step, stopped, Session.handOver_eq, List.tail_drop,
      List.headD_eq_head?_getD, List.head?_drop]
  have waits : ∀ asked ≤ heard.length, ∃ waiting,
      Session.step^[asked + 1] ⟨machine, script⟩ = ⟨waiting, script.drop asked⟩ ∧
      machine.Waits pos opcode (heard.take asked) waiting := by
    -- The stop begins with a prompt, and each entry in front of the last leads to another one.
    intro asked
    induction asked with
    | zero =>
      intro _
      refine ⟨machine.advance, ?_, Machine.waits_advance ready debugging next endless⟩
      simp only [Nat.zero_add, Function.iterate_one, Session.step, ready, List.drop_zero]
    | succ asked ih =>
      intro within
      obtain ⟨waiting, reached, waits⟩ := ih (by omega)
      have here : heard[asked]? = some heard[asked] := List.getElem?_eq_getElem within
      have silent : heard[asked].resumes = false := by
        have passed := List.all_eq_true.mp List.all_takeWhile _ (List.getElem_mem within)
        simpa using passed
      have entry : script[asked]?.getD .endOfInput = heard[asked] := by
        rw [split, List.getElem?_append_left within, here]
        rfl
      refine ⟨waiting.receive heard[asked], ?_, ?_⟩
      · rw [Function.iterate_succ_apply', reached, hears waiting waits.stopped, entry]
      · rw [List.take_add_one, here]
        exact waits.hear next endless silent
  refine ⟨Console.prompts_prompt _ _ _, waits, Entry.resumes_last script, ?_⟩
  obtain ⟨waiting, reached, all⟩ := waits heard.length (Nat.le_refl _)
  rw [List.take_length] at all
  obtain ⟨released, result, free⟩ := all.release next (Entry.resumes_last script)
  refine ⟨released, ?_, free⟩
  rw [Function.iterate_succ_apply', reached, hears waiting all.stopped,
    Entry.getElem?_length_takeWhile, result]

/-- A machine stops in front of its first instruction. The console passes over a blank line, lists
the code, complains about a word that it does not know, and leaves the debugger with the fourth
line, each of them behind a prompt for the first position, the first cell and the symbol; the fifth
line is left for the program. -/
theorem console_stop_hears_commands_quit :
    let program : Program := ⟨.op 0 .increment (.op 1 .input .done), 2, 0⟩
    let blueprint : Blueprint :=
      { Blueprint.ofProgram program with tapeLength := 1, debugging := true }
    let machine := blueprint.machine
    let heard : List Entry := [.line [], .line (utf8 "c"), .line (utf8 "nexT")]
    let prompt := utf8 "(brainfuck 0x00000000:0x00000000:+) "
    ∃ released : Machine,
      Session.step^[5] ⟨machine, heard ++ [.line (utf8 " q "), .line (utf8 "x")]⟩ =
        ⟨released.execute, [.line (utf8 "x")]⟩ ∧
      released.mode = .running ∧ released.tape = machine.tape ∧
      Console.Prompts 0 0 (ascii '+') prompt ∧
      released.emitted = prompt ++ prompt ++ (utf8 "+,\n" ++ prompt) ++
        (utf8 "Unable to parse command: nexT\n" ++ prompt) := by
  intro program blueprint machine heard prompt
  have ready : machine.status = .ready := rfl
  have next : machine.next? = some (0, .basic .increment) := rfl
  obtain ⟨prompts, -, -, released, reached, free⟩ :=
    console_stop_hears_commands ready rfl next ⟨rfl, rfl⟩
      (heard ++ [.line (utf8 " q "), .line (utf8 "x")])
  rw [show (List.takeWhile _ (heard ++ _)) = heard by decide +kernel,
    show (List.find? _ (heard ++ _)).getD _ = .line (utf8 " q ") by decide +kernel] at reached free
  have spelled : Console.prompt 0 machine.tape.pointer (.basic .increment) = prompt := by
    decide +kernel
  refine ⟨released, reached, free.mode.trans (by decide +kernel), free.kept.tape,
    spelled ▸ prompts, ?_⟩
  rw [free.shown]
  decide +kernel

end TapeMachine
