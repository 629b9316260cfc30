import TapeMachine.Proofs.Machine.Output
import TapeMachine.Proofs.Runner.Calls

/-! A call of a runner against the machine that its settings ask for, on the lines of standard
input: what the machine comes to is what the call leaves. -/

namespace TapeMachine

/-- The machine that settings ask for with a program, as it is put together without a runner. -/
def Config.core (config : Config) (program : Program) (interactive : Bool) (room : Option Nat) :
    Blueprint :=
  { Blueprint.ofProgram program with
    tapeLength := config.tapeLength
    inputMode := config.mode
    prompting := config.showPrompt interactive
    debugging := config.debug
    observers := [.statistics]
    room := room }

/-- What standard error shows of an event beside the log. -/
def Event.asked : Event → Bytes
  | prompted => utf8 "> "
  | _ => []

/-- A log that goes somewhere else does not show on a channel. -/
theorem LogRecord.textOn_messages (record : LogRecord) {logger : Option Logger} {channel : Channel}
    (elsewhere : ∀ log ∈ logger, log.channel ≠ channel) :
    Message.textOn (record.messages logger) channel = [] := by
  cases logger with
  | none => rfl
  | some log =>
    rw [messages, Logger.messages]
    split
    · simp [Message.textOn, elsewhere log rfl]
    · rfl

namespace Runner

variable {runner : Runner} {loaded : LoadedProgram} {logger : Option Logger}

/-- Of an event standard output shows what the sink takes. -/
theorem textOn_messages (config : Config) (elsewhere : ∀ log ∈ logger, log.channel ≠ .stdout)
    (event : Event) :
    Message.textOn (messages config logger event) .stdout = event.sunk := by
  unfold messages
  split
  · simp [Message.textOn, Message.out, Event.sunk]
  · rfl
  · -- Every other event shows in the log only.
    rename_i delivered prompted
    have quiet : event.sunk = [] := by
      cases event <;> first | rfl | exact absurd rfl (delivered _)
    rw [quiet]
    split
    · exact LogRecord.textOn_messages _ elsewhere
    · rfl

/-- Of an event standard error shows the prompt. -/
theorem textOn_messages_stderr (config : Config)
    (elsewhere : ∀ log ∈ logger, log.channel ≠ .stderr) (event : Event) :
    Message.textOn (messages config logger event) .stderr = event.asked := by
  unfold messages
  split
  · rfl
  · simp [Message.textOn, Message.err, Event.asked]
  · rename_i delivered prompted
    have quiet : event.asked = [] := by
      cases event <;> first | rfl | exact absurd rfl prompted
    rw [quiet]
    split
    · exact LogRecord.textOn_messages _ elsewhere
    · rfl

/-- What the end of a machine shows of a call: the machine itself, statistics of its events, its
output on standard output, and on standard error its prompts and the statistics, if they are asked
for, unless the log goes there too. -/
structure Shows (runner : Runner) (logger : Option Logger) (workspace : Workspace)
    (ended : Machine) (result : (Runner × Except StartError Machine) × Workspace) : Prop where
  answer : result.1.2 = .ok ended
  after : result.1.1 = { runner with stats := some (Stats.ofEvents ended.events) }
  stdin : result.2.stdin = []
  stdout : (∀ log ∈ logger, log.channel ≠ .stdout) →
    result.2.stdout = workspace.stdout ++ ended.told Event.sunk
  stderr : (∀ log ∈ logger, log.channel ≠ .stderr) →
    result.2.stderr = workspace.stderr ++ ended.told Event.asked ++
      if runner.config.stats then (Stats.ofEvents ended.events).table.render ++ [newline] else []

/-- What a call leaves shows the end of the machine. -/
theorem shows_leave (runner : Runner) (logger : Option Logger) (workspace : Workspace)
    (ended : Machine) :
    Shows runner logger workspace ended (runner.leave logger workspace ended) := by
  -- The run puts texts on a channel by its events, and the last record and the table follow.
  have run {channel : Channel} {view : Event → Bytes}
      (shows : ∀ event, Message.textOn (messages runner.config logger event) channel = view event) :
      Message.textOn (ended.events.flatMap (messages runner.config logger)) channel =
        ended.told view := by
    rw [Machine.told, Message.textOn, List.flatMap_assoc]
    exact congrArg ended.events.flatMap (funext shows)
  have last {channel : Channel} (elsewhere : ∀ log ∈ logger, log.channel ≠ channel) :
      Message.textOn (runner.finish logger (Stats.ofEvents ended.events) ended).2 channel =
        Message.textOn (if runner.config.stats then
          [Message.err ((Stats.ofEvents ended.events).table.render ++ [newline])] else [])
          channel := by
    have logged := LogRecord.textOn_messages (runner.finishRecord ended) elsewhere
    simp only [Message.textOn] at logged ⊢
    rw [finish, List.flatMap_append, logged, List.nil_append]
  refine ⟨rfl, rfl, rfl, fun elsewhere => ?_, fun elsewhere => ?_⟩
  · show workspace.stdout ++
      Message.textOn (ended.events.flatMap (messages runner.config logger)) .stdout ++
      Message.textOn (runner.finish logger (Stats.ofEvents ended.events) ended).2 .stdout = _
    rw [run (textOn_messages runner.config elsewhere), last elsewhere]
    -- The table is not for standard output.
    split <;> exact List.append_nil _
  · show workspace.stderr ++
      Message.textOn (ended.events.flatMap (messages runner.config logger)) .stderr ++
      Message.textOn (runner.finish logger (Stats.ofEvents ended.events) ended).2 .stderr = _
    rw [run (textOn_messages_stderr runner.config elsewhere), last elsewhere]
    congr 1
    split
    · simp [Message.textOn, Message.err]
    · rfl

/-- A run starts on the machine that the settings ask for, and fails as building that does. -/
theorem start_eq_core (holds : runner.loaded = some loaded) (interactive : Bool)
    (room : Option Nat) :
    runner.start interactive room .never = ({ runner with stats := some .zero },
      (runner.config.core loaded.program interactive room).build.mapError .build) := by
  have program : runner.program = loaded.program := by rw [Runner.program, holds]
  -- Who watches only matters if somebody does so twice.
  have same : (runner.blueprint interactive room .never).build =
      (runner.config.core loaded.program interactive room).build := by
    have once := Nat.not_lt.mpr (Nat.le_of_eq (eraseDups_observers runner.config).symm)
    have alone : ¬ [Observer.statistics].eraseDups.length < [Observer.statistics].length := by
      decide
    simp only [Blueprint.build, blueprint, Config.core, once, alone, if_false, program]
    rfl
  simp only [start, holds, same]

/-- A scheduled call leaves what the machine comes to beside the reader. -/
theorem scheduled_eq (holds : runner.loaded = some loaded) {interactive : Bool}
    {room : Option Nat} {machine : Machine}
    (built : (runner.config.core loaded.program interactive room).build = .ok machine)
    (environment : Environment) (workspace : Workspace) (schedule : Nat → Turn) (turns : Nat) :
    (runner.run
      { Workspace.scheduledHost schedule turns environment with interactive, room } logger
      .never).run workspace = leave { runner with stats := some .zero } logger workspace
        (Interplay.play schedule turns (.start machine workspace.stdin)).machine := by
  -- The host is asked to run the machine that the settings ask for.
  have began := start_eq_core holds interactive room
  rw [built] at began
  simp only [run, began]
  rfl

end Runner

/-- A call of a runner depends on the bytes of standard input alone, and not on who moves when. It
does what the machine does that its settings ask for with the loaded program, and whose source hands
out the lines of standard input in order and then its end for ever. If that machine cannot be built,
the call fails in the same way; and otherwise, under every schedule of the reader and the machine,
the call comes to an end exactly if that machine does so, and then it leaves that machine's error,
statistics, output and prompts. -/
theorem run_eq_of_schedule {runner : Runner} {loaded : LoadedProgram}
    (holds : runner.loaded = some loaded) (interactive : Bool) (room : Option Nat)
    (logger : Option Logger) (environment : Environment) (workspace : Workspace)
    (schedule : Nat → Turn) :
    let core := runner.config.core loaded.program interactive room
    let scheduled turns := (runner.run
      { Workspace.scheduledHost schedule turns environment with interactive, room } logger
      .never).run workspace
    (∀ error, core.build = .error error → ∀ turns,
      scheduled turns = (({ runner with stats := some .zero }, .error (.build error)), workspace)) ∧
    ∀ machine, core.build = .ok machine →
      let sequential moves := (Session.run moves ⟨machine, scriptOf workspace.stdin⟩).machine
      ((∃ turns, Runner.Ended (scheduled turns).1) ↔
        ∃ moves, (sequential moves).isHalted = true) ∧
      ∀ turns moves, Runner.Ended (scheduled turns).1 → (sequential moves).isHalted = true →
        scheduled turns = Runner.leave { runner with stats := some .zero } logger workspace
          (sequential moves) ∧
        Runner.Shows runner logger workspace (sequential moves) (scheduled turns) := by
  intro core scheduled
  refine ⟨fun error failed turns => ?_, fun machine built => ?_⟩
  · have began := Runner.start_eq_core holds interactive room
    rw [show (runner.config.core loaded.program interactive room).build = .error error from
      failed] at began
    simp only [scheduled, Runner.run, began]
    rfl
  · intro sequential
    have scheduled_eq (turns : Nat) : scheduled turns =
        Runner.leave { runner with stats := some .zero } logger workspace
          (Interplay.play schedule turns (.start machine workspace.stdin)).machine :=
      Runner.scheduled_eq holds built environment workspace schedule turns
    obtain ⟨ends, same⟩ := Interplay.play_ends schedule machine workspace.stdin
    simp only [scheduled_eq]
    refine ⟨ends, fun turns moves ended stopped => ?_⟩
    have left : (Interplay.play schedule turns (.start machine workspace.stdin)).machine =
        sequential moves := same turns moves ended stopped
    rw [left]
    -- The statistics that a call begins with do not matter at its end.
    obtain ⟨answer, after, stdin, stdout, stderr⟩ :=
      Runner.shows_leave { runner with stats := some .zero } logger workspace (sequential moves)
    exact ⟨rfl, answer, after, stdin, stdout, stderr⟩

/-- A machine that moves first and a reader that moves every other time: the byte that is read comes
out one greater, behind a prompt, and three instructions are counted. -/
theorem run_eq_of_schedule_increment :
    let config : Config := { Config.default with tapeLength := 1, prompt := utf8 "always" }
    let loaded : LoadedProgram :=
      ⟨utf8 "next", .op 0 .input (.op 1 .increment (.op 2 .output .done)), 3, 0⟩
    let runner : Runner := { Runner.fresh [] config with loaded := some loaded }
    let schedule turn : Turn := if turn % 2 = 0 then .machine else .reader
    let scheduled turns := (runner.run { Workspace.scheduledHost schedule turns (fun _ => none) with
      interactive := false, room := none } none .never).run (.fresh .empty (utf8 "a\nb"))
    runner.loaded = some loaded ∧ ∃ turns, Runner.Ended (scheduled turns).1 ∧
      ∃ machine, (scheduled turns).1.2 = .ok machine ∧ machine.status = .halted none ∧
        (scheduled turns).1.1.stats.map Stats.total = some 3 ∧
        (scheduled turns).2.stdout = utf8 "b" ∧ (scheduled turns).2.stderr = utf8 "> " := by
  intro config loaded runner schedule scheduled
  -- The sequential run is computed once, and the scheduled one follows it.
  have holds : runner.loaded = some loaded := rfl
  have built : (config.core loaded.program false none).build =
      .ok (config.core loaded.program false none).machine :=
    Blueprint.build_of_fits (by decide) (by decide) (by decide)
  obtain ⟨-, runs⟩ := run_eq_of_schedule holds false none none (fun _ => none)
    (.fresh .empty (utf8 "a\nb")) schedule
  obtain ⟨ends, same⟩ := runs _ built
  let sequential := (Session.run 9 ⟨(config.core loaded.program false none).machine,
    scriptOf (utf8 "a\nb")⟩).machine
  have stopped : sequential.status = .halted none := by decide +kernel
  have halted : sequential.isHalted = true := by rw [Machine.isHalted, stopped]
  obtain ⟨turns, ended⟩ := ends.mpr ⟨9, halted⟩
  obtain ⟨-, shows⟩ := same turns 9 ended halted
  have counted : (Stats.ofEvents sequential.events).total = 3 := by decide +kernel
  have sunk : sequential.told Event.sunk = utf8 "b" := by decide +kernel
  have asked : sequential.told Event.asked = utf8 "> " := by decide +kernel
  refine ⟨holds, turns, ended, sequential, shows.answer, stopped, ?_, ?_, ?_⟩
  · rw [shows.after]
    exact congrArg some counted
  · exact (shows.stdout nofun).trans sunk
  · exact (shows.stderr nofun).trans ((List.append_nil _).trans asked)

end TapeMachine
