import TapeMachine.Proofs.Machine.Fault
import TapeMachine.Proofs.Machine.Statistics
import TapeMachine.Proofs.Runner.Schedule

/-! Calls of a runner, one after the other: it shows the program of the last load that has
succeeded, and each run begins anew. -/

namespace TapeMachine

/-- Where a program is loaded from. -/
inductive Load where
  /-- A source with a name. -/
  | source (name source : Bytes)
  /-- The file at a path. -/
  | file (path : Bytes)

/-- A call of a runner. -/
inductive Call where
  /-- Loads a program. -/
  | load (load : Load)
  /-- Runs the loaded program. -/
  | run (cancellation : Cancellation)

/-- What a call finds around it. -/
structure Scene where
  /-- The world. -/
  workspace : Workspace
  /-- The environment variables. -/
  environment : Environment
  /-- Whether there is a user at a terminal. -/
  interactive : Bool
  /-- How many bytes of output standard output takes before it fails, if it ever does. -/
  room : Option Nat
  /-- The logger. -/
  logger : Option Logger
  /-- What the line source of a run hands out. -/
  script : List Entry
  /-- How many moves a run may take. -/
  moves : Nat

/-- The end of the run of a machine. -/
def Scene.ended (scene : Scene) (machine : Machine) : Machine :=
  (Session.run scene.moves ⟨machine, scene.script⟩).machine

/-- The host of a call. -/
def Scene.host (scene : Scene) : Host (StateM Workspace) :=
  { Workspace.host scene.moves scene.environment with
    interactive := scene.interactive
    room := scene.room
    run := fun machine messages => modifyGet fun workspace =>
      workspace.conclude (scene.ended machine) messages }

/-- The program that a source holds, under a name. -/
def LoadedProgram.ofSource (name source : Bytes) : Except LoadError LoadedProgram :=
  match compile source with
  | .ok program => .ok ⟨name, program⟩
  | .error error => .error (.program name error)

/-- What a load finds. -/
def Load.found (disk : Disk) : Load → Except LoadError LoadedProgram
  | .source name text => LoadedProgram.ofSource name text
  | .file path =>
    match disk.content path with
    | .ok text => LoadedProgram.ofSource path text
    | .error error => .error (.file error)

/-- The program that a call has loaded; there is none if it failed or was a run. -/
def Call.loaded? : Scene × Call → Option LoadedProgram
  | (scene, .load request) => (request.found scene.workspace.disk).toOption
  | (_, .run _) => none

namespace Blueprint

variable {blueprint : Blueprint}

/-- A machine can be built if its tape fits in a memory and nobody watches it twice. -/
theorem build_of_fits (cells : 1 ≤ blueprint.tapeLength)
    (limited : blueprint.tapeLength ≤ memoryLimit)
    (once : blueprint.observers.eraseDups.length = blueprint.observers.length) :
    blueprint.build = .ok blueprint.machine := by
  rw [build, if_neg (Int.not_lt.mpr cells), if_neg (Int.not_lt.mpr limited), once,
    if_neg (Nat.lt_irrefl _)]

/-- A machine with more cells than any memory cannot be built. -/
theorem build_of_oversized (cells : 1 ≤ blueprint.tapeLength)
    (oversized : memoryLimit < blueprint.tapeLength) :
    blueprint.build = .error .tooManyCells := by
  rw [build, if_neg (Int.not_lt.mpr cells), if_pos oversized]

/-- The statistics of a run that begins on a fresh machine count its steps. -/
theorem total_eq_steps (blueprint : Blueprint) (script : List Entry) (moves : Nat) :
    let ended := (Session.run moves ⟨blueprint.machine, script⟩).machine
    (Stats.ofEvents ended.events).total = .ofNat ended.steps := by
  intro ended
  have reached : Session.Reaches ⟨blueprint.machine, script⟩
      (Session.run moves ⟨blueprint.machine, script⟩) := by
    rw [Session.run_eq_iterate]
    exact Session.Reaches.refl.iterate moves
  obtain ⟨outcomes, missed, history⟩ := reached.history
  -- The total counts the starts of instructions, and so do the steps.
  exact (Stats.tallies_ofEvents ended.events).total.trans
    (congrArg UInt64.ofNat history.balance.steps)

end Blueprint

/-- A machine that has not moved yet, on a blank tape. -/
structure Machine.Fresh (machine : Machine) (loaded : Program) (tapeLength : Nat)
    (room : Option Nat) : Prop where
  program : machine.program = loaded
  code : machine.code = loaded.code
  loops : machine.loops = []
  tape : machine.tape = .blank tapeLength
  steps : machine.steps = 0
  pending : machine.pending = []
  writer : machine.writer = .fresh room
  status : machine.status = .ready
  journal : machine.journal = []

namespace Runner

/-- Loads a program in a scene. -/
def request (runner : Runner) (scene : Scene) (load : Load) : Except LoadError Runner :=
  let action := match load with
    | .source name source => runner.loadSource scene.host scene.logger name source
    | .file path => runner.loadFile scene.host scene.logger path
  (action.run scene.workspace).1

/-- Runs the loaded program in a scene. -/
def play (runner : Runner) (scene : Scene) (cancellation : Cancellation) :
    Runner × Except StartError Machine :=
  ((runner.run scene.host scene.logger cancellation).run scene.workspace).1

/-- The runner behind a call. A load that fails hands out no other runner. -/
def after (runner : Runner) : Scene × Call → Runner
  | (scene, .load load) =>
    match runner.request scene load with
    | .ok other => other
    | .error _ => runner
  | (scene, .run cancellation) => (runner.play scene cancellation).1

variable {runner : Runner} {scene : Scene} {cancellation : Cancellation}

/-- A load changes nothing but the loaded program, and that only if it finds one. -/
theorem request_eq (runner : Runner) (scene : Scene) (load : Load) :
    runner.request scene load = (load.found scene.workspace.disk).map fun loaded =>
      { runner with loaded := some loaded } := by
  -- A source is compiled under its name, wherever it comes from.
  have compiles (name source : Bytes) :
      ((runner.loadSource scene.host scene.logger name source).run scene.workspace).1 =
        (LoadedProgram.ofSource name source).map fun loaded =>
          { runner with loaded := some loaded } := by
    cases compiled : compile source with
    | error error =>
      simp only [loadSource, Runner.load, LoadedProgram.ofSource, compiled]
      rfl
    | ok program =>
      simp only [loadSource, Runner.load, LoadedProgram.ofSource, compiled]
      rfl
  cases load with
  | source name source => exact compiles name source
  | file path =>
    -- A file is read before it is compiled, and reading leaves the workspace as it is.
    have read : (scene.host.readFile path).run scene.workspace =
        (scene.workspace.disk.content path, scene.workspace) := rfl
    simp only [request, loadFile, StateT.run_bind, read, Load.found]
    cases scene.workspace.disk.content path with
    | error error => rfl
    | ok source => exact compiles path source

/-- Nobody watches a run twice. -/
theorem eraseDups_observers (config : Config) :
    (observers config).eraseDups.length = (observers config).length := by
  unfold observers
  split <;> rfl

/-- With a program and a tape that fits in a memory the run starts. -/
theorem start_of_some {loaded : LoadedProgram} (holds : runner.loaded = some loaded)
    (cells : 1 ≤ runner.config.tapeLength)
    (limited : runner.config.tapeLength ≤ Blueprint.memoryLimit) (interactive : Bool)
    (room : Option Nat) (cancellation : Cancellation) :
    runner.start interactive room cancellation =
      ({ runner with stats := some .zero },
        .ok (runner.blueprint interactive room cancellation).machine) := by
  have built : (runner.blueprint interactive room cancellation).build =
      .ok (runner.blueprint interactive room cancellation).machine :=
    Blueprint.build_of_fits cells limited (eraseDups_observers runner.config)
  simp only [start, holds, built]
  -- Nothing else can keep the run from starting.
  rfl

/-- A tape that fits in no memory cannot be built. -/
theorem start_of_oversized {loaded : LoadedProgram} (holds : runner.loaded = some loaded)
    (cells : 1 ≤ runner.config.tapeLength)
    (oversized : Blueprint.memoryLimit < runner.config.tapeLength) (interactive : Bool)
    (room : Option Nat) (cancellation : Cancellation) :
    runner.start interactive room cancellation =
      ({ runner with stats := some .zero }, .error (.build .tooManyCells)) := by
  have refused : (runner.blueprint interactive room cancellation).build = .error .tooManyCells :=
    Blueprint.build_of_oversized cells oversized
  simp only [start, holds, refused]
  rfl

/-- A run that has started leaves its own statistics. -/
theorem play_of_start {started : Runner} {machine : Machine}
    (begins : runner.start scene.interactive scene.room cancellation = (started, .ok machine)) :
    runner.play scene cancellation =
      ({ started with stats := some (Stats.ofEvents (scene.ended machine).events) },
        .ok (scene.ended machine)) := by
  have same : runner.start scene.host.interactive scene.host.room cancellation =
      (started, .ok machine) := begins
  simp only [play, run, same]
  rfl

/-- A run that cannot start is over. -/
theorem play_of_error {started : Runner} {error : StartError}
    (begins : runner.start scene.interactive scene.room cancellation = (started, .error error)) :
    runner.play scene cancellation = (started, .error error) := by
  have same : runner.start scene.host.interactive scene.host.room cancellation =
      (started, .error error) := begins
  simp only [play, run, same]
  rfl

/-- Without a program nothing is run. -/
theorem play_of_none (nothing : runner.loaded = none) (scene : Scene)
    (cancellation : Cancellation) :
    runner.play scene cancellation = (runner, .error .noProgram) := by
  refine play_of_error ?_
  simp only [start, nothing]

/-- With a program and a tape that fits in a memory a run begins on a fresh machine, and leaves the
statistics of its own steps. -/
theorem play_of_some {loaded : LoadedProgram} (holds : runner.loaded = some loaded)
    (cells : 1 ≤ runner.config.tapeLength)
    (limited : runner.config.tapeLength ≤ Blueprint.memoryLimit) (scene : Scene)
    (cancellation : Cancellation) :
    ∃ machine, machine.Fresh loaded.program runner.config.tapeLength.toNat scene.room ∧
      let ended := scene.ended machine
      let stats := Stats.ofEvents ended.events
      runner.play scene cancellation = ({ runner with stats := some stats }, .ok ended) ∧
        stats.total = .ofNat ended.steps := by
  have program : runner.program = loaded.program := by rw [Runner.program, holds]
  refine ⟨(runner.blueprint scene.interactive scene.room cancellation).machine, ?_, ?_, ?_⟩
  · rw [← program]
    exact ⟨rfl, rfl, rfl, rfl, rfl, rfl, rfl, rfl, rfl⟩
  · have started := start_of_some holds cells limited scene.interactive scene.room cancellation
    rw [play_of_start started]
  · exact Blueprint.total_eq_steps _ _ _

/-- A run changes nothing but the statistics. -/
theorem exists_play (runner : Runner) (scene : Scene) (cancellation : Cancellation) :
    ∃ stats, (runner.play scene cancellation).1 = { runner with stats } := by
  have begins : ∃ stats,
      (runner.start scene.interactive scene.room cancellation).1 = { runner with stats } := by
    -- A start that gets as far as the machine forgets the statistics of the last run.
    unfold start
    split
    · exact ⟨runner.stats, rfl⟩
    · exact ⟨some .zero, rfl⟩
  obtain ⟨stats, same⟩ := begins
  cases outcome : runner.start scene.interactive scene.room cancellation with
  | mk started answer =>
    rw [outcome] at same
    obtain rfl : started = _ := same
    cases answer with
    | error error => exact ⟨stats, congrArg Prod.fst (play_of_error outcome)⟩
    | ok machine => exact ⟨_, congrArg Prod.fst (play_of_start outcome)⟩

/-- Behind a call the runner holds what the call has loaded, or else what it has held before, and
has its name and settings still. -/
theorem after_eq (runner : Runner) (call : Scene × Call) :
    ∃ stats, runner.after call =
      { runner with loaded := (Call.loaded? call).or runner.loaded, stats } := by
  rcases call with ⟨scene, load | cancellation⟩
  -- A load changes the program, and a run the statistics.
  · refine ⟨runner.stats, ?_⟩
    rw [after, request_eq, Call.loaded?]
    cases load.found scene.workspace.disk <;> rfl
  · exact runner.exists_play scene cancellation

/-- Behind a number of calls the runner holds what the last of them that has loaded something has
loaded. -/
theorem foldl_after (calls : List (Scene × Call)) :
    ∀ runner : Runner, ∃ stats, calls.foldl after runner = { runner with
      loaded := (calls.filterMap Call.loaded?).getLast?.or runner.loaded, stats } := by
  induction calls with
  | nil => exact fun runner => ⟨runner.stats, rfl⟩
  | cons call calls ih =>
    intro runner
    obtain ⟨first, step⟩ := runner.after_eq call
    obtain ⟨stats, rest⟩ := ih (runner.after call)
    refine ⟨stats, ?_⟩
    rw [List.foldl_cons, rest, step]
    -- What the first call has loaded counts if no later call has loaded anything.
    cases found : Call.loaded? call with
    | none => simp [found]
    | some loaded =>
      rw [List.filterMap_cons_some found, List.getLast?_cons]
      cases (calls.filterMap Call.loaded?).getLast? <;> rfl

end Runner

/-- A runner follows the last load that has succeeded. Whatever calls have been made, in whatever
surroundings: it holds the program that this load has found under its name, or the empty program if
there has been none, and has kept its own name and its settings. A further load that fails changes
nothing, and one that succeeds changes the loaded program alone. A further run fails for want of a
program exactly if no load has succeeded, and then it changes nothing; in any other case it begins
on a fresh machine with a blank tape, unless that tape fits in no memory, and changes the statistics
alone: they count the events of this run, and their total is its number of steps. -/
theorem runner_follows_last_load (name : Bytes) {config : Config} (cells : 1 ≤ config.tapeLength)
    (calls : List (Scene × Call)) :
    let runner := calls.foldl Runner.after (.fresh name config)
    let last := (calls.filterMap Call.loaded?).getLast?
    runner.name = name ∧ runner.config = config ∧ runner.loaded = last ∧
      runner.program = (last.map LoadedProgram.program).getD .empty ∧
      (∀ scene load,
        (∀ error, load.found scene.workspace.disk = .error error →
          runner.request scene load = .error error ∧
            runner.after (scene, .load load) = runner) ∧
        ∀ loaded, load.found scene.workspace.disk = .ok loaded →
          runner.request scene load = .ok (runner.after (scene, .load load)) ∧
            runner.after (scene, .load load) = { runner with loaded := some loaded }) ∧
      ∀ scene cancellation,
        let (after, answer) := runner.play scene cancellation
        (answer = .error .noProgram ↔ ∀ call ∈ calls, Call.loaded? call = none) ∧
        (answer = .error .noProgram → after = runner) ∧
        ∀ loaded, last = some loaded →
          (config.tapeLength ≤ Blueprint.memoryLimit →
            ∃ machine, machine.Fresh loaded.program config.tapeLength.toNat scene.room ∧
              let ended := scene.ended machine
              let stats := Stats.ofEvents ended.events
              answer = .ok ended ∧ after = { runner with stats := some stats } ∧
                stats.total = .ofNat ended.steps) ∧
          (Blueprint.memoryLimit < config.tapeLength →
            answer = .error (.build .tooManyCells) ∧
              after = { runner with stats := some .zero }) := by
  intro runner last
  obtain ⟨stats, built⟩ := Runner.foldl_after calls (.fresh name config)
  have settings : runner.config = config := congrArg Runner.config built
  have holds : runner.loaded = last := (congrArg Runner.loaded built).trans Option.or_none
  refine ⟨congrArg Runner.name built, settings, holds, ?_, fun scene load => ⟨?_, ?_⟩, ?_⟩
  · rw [Runner.program, holds]
    cases last <;> rfl
  · intro error missing
    have refused : runner.request scene load = .error error := by
      rw [Runner.request_eq, missing]
      rfl
    exact ⟨refused, by rw [Runner.after, refused]⟩
  · intro loaded found
    have taken : runner.request scene load = .ok { runner with loaded := some loaded } := by
      rw [Runner.request_eq, found]
      rfl
    have after : runner.after (scene, .load load) = { runner with loaded := some loaded } := by
      rw [Runner.after, taken]
    exact ⟨by rw [taken, after], after⟩
  · intro scene cancellation
    -- No load has succeeded exactly if there is no last one.
    have none_iff : last = none ↔ ∀ call ∈ calls, Call.loaded? call = none := by
      rw [List.getLast?_eq_none_iff, List.filterMap_eq_nil_iff]
    rw [← none_iff]
    rw [← settings] at cells ⊢
    cases some : last with
    | none =>
      rw [Runner.play_of_none (holds.trans some)]
      exact ⟨⟨fun _ => rfl, fun _ => rfl⟩, fun _ => rfl, nofun⟩
    | some loaded =>
      have loads : runner.loaded = .some loaded := holds.trans some
      rcases Int.lt_or_le Blueprint.memoryLimit runner.config.tapeLength with oversized | limited
      · rw [Runner.play_of_error (Runner.start_of_oversized loads cells oversized _ _ _)]
        refine ⟨⟨nofun, nofun⟩, nofun, fun other same => ⟨fun limited => ?_, fun _ => ⟨rfl, rfl⟩⟩⟩
        omega
      · obtain ⟨machine, fresh, played, total⟩ :=
          Runner.play_of_some loads cells limited scene cancellation
        rw [played]
        refine ⟨⟨nofun, nofun⟩, nofun, fun other same => ⟨fun _ => ?_, fun oversized => ?_⟩⟩
        · obtain rfl := Option.some.inj same
          exact ⟨machine, fresh, rfl, rfl, total⟩
        · omega

/-- A run without a program, a load, two loads that fail and a run are behind the runner. It holds
what the first load has found, and one more run counts its own three steps alone. -/
theorem runner_follows_last_load_failures :
    let config : Config := { Config.default with tapeLength := 1 }
    let scene : Scene := ⟨.fresh .empty [], fun _ => none, false, none, none, [.line (utf8 "a")], 9⟩
    let calls := [Call.run .never, .load (.source (utf8 "one") (utf8 ",+.")),
      .load (.source (utf8 "two") (utf8 "[")), .load (.file (utf8 "three")), .run .never]
    let runner := (calls.map fun call => (scene, call)).foldl Runner.after (.fresh [] config)
    1 ≤ config.tapeLength ∧ runner.loaded.map LoadedProgram.name = some (utf8 "one") ∧
      ∃ (ended : Machine) (stats : Stats),
        runner.play scene .never = ({ runner with stats := some stats }, .ok ended) ∧
        ended.isHalted = true ∧ stats.total = 3 := by
  intro config scene calls runner
  have cells : 1 ≤ config.tapeLength := by decide
  have found : ((calls.map fun call => (scene, call)).filterMap Call.loaded?).getLast? =
      some ⟨utf8 "one", .op 0 .input (.op 1 .increment (.op 2 .output .done)), 3, 0⟩ := by
    decide +kernel
  obtain ⟨-, -, holds, -, -, runs⟩ :=
    runner_follows_last_load [] cells (calls.map fun call => (scene, call))
  obtain ⟨machine, -, answer, after, total⟩ := ((runs scene .never).2.2 _ found).1 (by decide)
  have played : runner.play scene .never = (_, .ok (scene.ended machine)) := Prod.ext after answer
  have shown : (runner.play scene .never).2.toOption.map
      (fun ended => (ended.isHalted, ended.steps)) = some (true, 3) := by decide +kernel
  rw [played] at shown
  obtain ⟨halted, steps⟩ := Prod.mk.inj (Option.some.inj shown)
  refine ⟨cells, ?_, scene.ended machine, _, played, halted, ?_⟩
  · rw [holds, found]
    rfl
  · rw [total, steps]
    rfl

end TapeMachine
