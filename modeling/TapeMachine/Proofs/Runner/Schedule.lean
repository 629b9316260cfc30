import TapeMachine.Proofs.Input.Reader
import TapeMachine.Proofs.Lockstep
import TapeMachine.Proofs.Machine.Place
import TapeMachine.Runner

/-! A machine and the reader of its input may take turns in any order: where the machine comes to
depends on the bytes of the stream alone. -/

namespace TapeMachine

/-- Who makes a move. -/
inductive Turn where
  /-- The reader, which fills the queue. -/
  | reader
  /-- The machine, which empties it. -/
  | machine
  deriving DecidableEq, Repr

/-- Who makes a move instead. -/
def Turn.other : Turn → Turn
  | reader => machine
  | machine => reader

/-- A machine that takes its lines from the queue of a reader. -/
structure Interplay where
  /-- The machine. -/
  machine : Machine
  /-- The reader with its queue. -/
  reader : Reader

namespace Interplay

/-- A machine beside a reader that has just been started on a stream with an end. -/
def start (machine : Machine) (stream : Bytes) : Interplay :=
  ⟨machine, { Reader.fresh with unread := stream, ending := some .ended, started := true }⟩

/-- A move, if it is possible. A machine that needs a line waits while the queue is open and empty;
a reader moves until it has read the end of the stream. -/
def move? (interplay : Interplay) : Turn → Option Interplay
  | .reader => interplay.reader.read?.map fun reader => { interplay with reader }
  | .machine =>
    match interplay.machine.status with
    | .ready => some { interplay with machine := interplay.machine.advance }
    | .halted _ => none
    | _ => interplay.reader.queue.take?.map fun (entry, left) =>
      ⟨interplay.machine.receive entry, { interplay.reader with queue := left }⟩

/-- The preferred one moves if it can, and else the other one. -/
def turn (interplay : Interplay) (preferred : Turn) : Interplay :=
  match interplay.move? preferred with
  | some after => after
  | none => (interplay.move? preferred.other).getD interplay

/-- At most so many turns under a schedule, until the run of the machine is over. -/
def play (schedule : Nat → Turn) : Nat → Interplay → Interplay
  | 0, interplay => interplay
  | turns + 1, interplay =>
    if interplay.machine.isHalted then interplay
    else play (fun n => schedule (n + 1)) turns (interplay.turn (schedule 0))

/-- A machine whose run is over is left alone. -/
theorem machine_of_halted (turns : List Turn) :
    ∀ {interplay after : Interplay}, interplay.machine.isHalted = true →
      turns.foldlM move? interplay = some after → after.machine = interplay.machine := by
  induction turns with
  | nil =>
    intro interplay after _ moved
    cases moved
    rfl
  | cons turn turns ih =>
    intro interplay after halted moved
    obtain ⟨middle, first, rest⟩ := Option.bind_eq_some_iff.mp moved
    -- Only the reader can still move.
    have same : middle.machine = interplay.machine := by
      cases turn with
      | reader =>
        obtain ⟨reader, -, rfl⟩ := Option.map_eq_some_iff.mp first
        rfl
      | machine =>
        unfold Machine.isHalted at halted
        simp only [move?] at first
        split at halted
        · rename_i status
          rw [status] at first
          cases first
        · cases halted
    rw [ih (same ▸ halted) rest, same]

/-- Every sequence of possible moves is played under some schedule, as far as the machine goes. -/
theorem exists_schedule (turns : List Turn) :
    ∀ {interplay after : Interplay}, turns.foldlM move? interplay = some after →
      ∃ schedule, (play schedule turns.length interplay).machine = after.machine := by
  -- The schedule that prefers these moves one after the other lets each of them happen.
  induction turns with
  | nil =>
    intro interplay after moved
    cases moved
    exact ⟨fun _ => .reader, rfl⟩
  | cons turn turns ih =>
    intro interplay after moved
    by_cases halted : interplay.machine.isHalted = true
    · refine ⟨fun _ => .reader, ?_⟩
      rw [machine_of_halted _ halted moved, List.length_cons, play, if_pos halted]
    · obtain ⟨middle, first, rest⟩ := Option.bind_eq_some_iff.mp moved
      obtain ⟨schedule, played⟩ := ih rest
      refine ⟨fun n => if n = 0 then turn else schedule (n - 1), ?_⟩
      rw [List.length_cons, play, if_neg halted]
      simpa [Interplay.turn, first] using played

/-- A session stands for a machine beside a reader: its script holds the lines that wait in the
queue and those that the reader has still to read, and the end of the stream is all that can close
the queue. -/
structure Linked (interplay : Interplay) (session : Session) : Prop where
  machine : session.machine = interplay.machine
  script : session.script =
    (interplay.reader.queue.waiting ++ lines interplay.reader.unread).map .line
  started : interplay.reader.started = true
  ending : interplay.reader.ending = some .ended
  phase : (interplay.reader.exited = false ∧ interplay.reader.queue.closing = none) ∨
    (interplay.reader.exited = true ∧ interplay.reader.unread = [] ∧
      ∃ queued, interplay.reader.queue.closing = some ⟨.ended, queued⟩)

end Interplay

/-- How many moves the reader has left: one for each line, and one for the end of the stream. -/
def Reader.readsLeft (reader : Reader) : Nat :=
  (lines reader.unread).length + if reader.exited then 0 else 1

namespace Interplay

variable {interplay after : Interplay} {session : Session}

/-- Before anything is read, the script is the lines of the stream. -/
theorem linked_start (machine : Machine) (stream : Bytes) :
    Linked (start machine stream) ⟨machine, scriptOf stream⟩ where
  machine := rfl
  script := by simp [start, scriptOf, Reader.fresh, LineQueue.empty]
  started := rfl
  ending := rfl
  phase := .inl ⟨rfl, rfl⟩

namespace Linked

/-- A move of the reader does not change what the machine will get, and uses up one read. -/
theorem read (linked : Linked interplay session) (moved : interplay.move? .reader = some after) :
    Linked after session ∧ after.reader.readsLeft + 1 = interplay.reader.readsLeft := by
  -- A reader that moves pushes a line or closes the queue, which is open as long as it works.
  obtain ⟨reader, read, rfl⟩ := Option.map_eq_some_iff.mp moved
  unfold Reader.read? at read
  split at read
  · rename_i reading
    have working := (interplay.reader.isReading_iff.mp reading).2
    have opened : interplay.reader.queue.closing = none := by
      rcases linked.phase with ⟨-, opened⟩ | ⟨exited, -⟩
      · exact opened
      · rw [working] at exited
        cases exited
    split at read
    · rename_i piece rest next
      cases read
      -- The piece moves from the stream to the end of the queue.
      have cut : lines interplay.reader.unread = trimLineEnd piece :: lines rest := by
        have nothing : interplay.reader.ending.isSome = true → ([] : Bytes) = [] := fun _ => rfl
        simpa using Reader.lines_of_nextPiece? next nothing
      refine ⟨⟨linked.machine, ?_, linked.started, linked.ending, ?_⟩, ?_⟩
      · rw [linked.script, cut]
        simp [Reader.pushPiece, LineQueue.push, opened]
      · exact .inl ⟨working, by simp [Reader.pushPiece, LineQueue.push, opened]⟩
      · simp [Reader.readsLeft, Reader.pushPiece, cut, working]
    · -- Nothing is left of the stream, so no line is missing when the queue closes.
      rename_i nothing
      rw [linked.ending] at read
      cases read
      have empty := Reader.unread_of_nextPiece?_none nothing (by simp [linked.ending])
      refine ⟨⟨linked.machine, ?_, linked.started, linked.ending, ?_⟩, ?_⟩
      · rw [linked.script]
        simp [Reader.closeAtEnd, LineQueue.close, opened]
      · exact .inr ⟨rfl, empty, _, by simp [Reader.closeAtEnd, LineQueue.close, opened]; rfl⟩
      · simp [Reader.readsLeft, Reader.closeAtEnd, working]
  · cases read

/-- What the queue hands out is the next entry of the script. -/
theorem handOver (linked : Linked interplay session) {entry : Entry} {left : LineQueue}
    (taken : interplay.reader.queue.take? = some (entry, left)) :
    Linked ⟨interplay.machine.receive entry, { interplay.reader with queue := left }⟩
      session.handOver := by
  unfold LineQueue.take? at taken
  split at taken
  · -- The oldest line of the queue stands first in the script.
    rename_i line rest waiting
    cases taken
    have script := linked.script
    rw [waiting, List.cons_append, List.map_cons] at script
    exact ⟨by simp [Session.handOver, script, linked.machine], by simp [Session.handOver, script],
      linked.started, linked.ending, linked.phase⟩
  · -- Only the end of the stream can have closed the queue, and no line is left behind it.
    rename_i waiting
    obtain ⟨closing, closed, result⟩ := Option.map_eq_some_iff.mp taken
    rcases linked.phase with ⟨-, opened⟩ | ⟨exited, unread, queued, ended⟩
    · rw [opened] at closed
      cases closed
    · obtain rfl : ⟨.ended, queued⟩ = closing := Option.some.inj (ended.symm.trans closed)
      cases result
      have script : session.script = [] := by simp [linked.script, waiting, unread]
      exact ⟨by simp [Session.handOver, script, linked.machine, CloseReason.entry],
        by simp [Session.handOver, script, waiting, unread], linked.started, linked.ending,
        linked.phase⟩

/-- A move of the machine is a move of the session, and leaves the stream alone. -/
theorem work (linked : Linked interplay session) (moved : interplay.move? .machine = some after) :
    Linked after session.step ∧ after.reader.readsLeft = interplay.reader.readsLeft := by
  -- The machine moves on its own, or on the entry that the queue hands out.
  have same := linked.machine
  unfold move? at moved
  dsimp only at moved
  unfold Session.step
  rw [same]
  split at moved
  · rename_i status
    cases moved
    rw [status]
    exact ⟨⟨rfl, linked.script, linked.started, linked.ending, linked.phase⟩, rfl⟩
  · cases moved
  · obtain ⟨⟨entry, left⟩, taken, rfl⟩ := Option.map_eq_some_iff.mp moved
    have handed := linked.handOver taken
    split <;> first | exact ⟨handed, rfl⟩ | simp_all

/-- A possible move is at most one move of the session; a move that is none uses up a read. -/
theorem move (linked : Linked interplay session) {turn : Turn}
    (moved : interplay.move? turn = some after) :
    ∃ moves, Linked after (Session.step^[moves] session) ∧
      after.reader.readsLeft + 1 = moves + interplay.reader.readsLeft := by
  cases turn with
  | reader =>
    obtain ⟨still, fewer⟩ := linked.read moved
    exact ⟨0, still, by omega⟩
  | machine =>
    obtain ⟨next, kept⟩ := linked.work moved
    exact ⟨1, next, by omega⟩

/-- As long as the run is not over somebody can move: a machine that has to wait is waited for by a
reader that has not come to the end of the stream. -/
theorem exists_move (linked : Linked interplay session)
    (running : interplay.machine.isHalted = false) (preferred : Turn) :
    ∃ turn, interplay.move? turn = some (interplay.turn preferred) := by
  have able : interplay.move? .reader ≠ none ∨ interplay.move? .machine ≠ none := by
    -- A machine that cannot move waits for an open queue without lines.
    refine or_iff_not_imp_right.mpr fun blocked => ?_
    have idle : interplay.reader.queue.take? = none := by
      by_contra available
      refine blocked fun waits => ?_
      unfold move? at waits
      dsimp only at waits
      unfold Machine.isHalted at running
      split at waits
      · cases waits
      · rename_i status
        simp [status] at running
      · exact available (Option.map_eq_none_iff.mp waits)
    have opened : interplay.reader.queue.closing = none := by
      unfold LineQueue.take? at idle
      split at idle
      · cases idle
      · exact Option.map_eq_none_iff.mp idle
    -- Only the reader can have closed the queue, so it is still at work.
    have reading : interplay.reader.isReading = true := by
      rcases linked.phase with ⟨working, -⟩ | ⟨-, -, queued, closed⟩
      · exact interplay.reader.isReading_iff.mpr ⟨linked.started, working⟩
      · rw [opened] at closed
        cases closed
    simp only [move?, Reader.read?, reading, linked.ending]
    cases interplay.reader.nextPiece? <;> simp
  unfold Interplay.turn
  split
  · rename_i after moved
    exact ⟨preferred, moved⟩
  · rename_i blocked
    refine ⟨preferred.other, ?_⟩
    -- The turn falls to the other one of the two.
    cases other : interplay.move? preferred.other with
    | some after => rfl
    | none => cases preferred <;> simp_all [Turn.other]

/-- Turns under a schedule are moves of the session: at least as many as there are turns, less those
that the reader has used, unless the run comes to its end. -/
theorem play (turns : Nat) :
    ∀ {interplay : Interplay} {session : Session} (schedule : Nat → Turn),
      Linked interplay session →
      ∃ moves, Linked (Interplay.play schedule turns interplay) (Session.step^[moves] session) ∧
        ((Interplay.play schedule turns interplay).machine.isHalted = true ∨
          turns ≤ moves + interplay.reader.readsLeft) := by
  -- A turn that the session does not follow uses up one of the reads that are left.
  induction turns with
  | zero =>
    intro interplay session schedule linked
    exact ⟨0, linked, .inr (Nat.zero_le _)⟩
  | succ turns ih =>
    intro interplay session schedule linked
    rw [Interplay.play]
    cases halted : interplay.machine.isHalted with
    | true => exact ⟨0, linked, .inl halted⟩
    | false =>
      obtain ⟨turn, moved⟩ := linked.exists_move halted (schedule 0)
      obtain ⟨first, next, spent⟩ := linked.move moved
      obtain ⟨others, last, enough⟩ := ih (fun n => schedule (n + 1)) next
      refine ⟨others + first, ?_, ?_⟩
      · rw [Function.iterate_add_apply]
        exact last
      · refine enough.imp id fun enough => ?_
        omega

end Linked

/-- Under every schedule the machine comes to its end exactly if it does so on the lines of the
stream, and then it is the same machine. -/
theorem play_ends (schedule : Nat → Turn) (machine : Machine) (stream : Bytes) :
    ((∃ turns, (play schedule turns (start machine stream)).machine.isHalted = true) ↔
      ∃ moves, (Session.run moves ⟨machine, scriptOf stream⟩).machine.isHalted = true) ∧
    ∀ turns moves, (play schedule turns (start machine stream)).machine.isHalted = true →
      (Session.run moves ⟨machine, scriptOf stream⟩).machine.isHalted = true →
      (play schedule turns (start machine stream)).machine =
        (Session.run moves ⟨machine, scriptOf stream⟩).machine := by
  have linked := linked_start machine stream
  simp only [Session.run_eq_iterate]
  have still (session : Session) (ended : session.machine.isHalted = true) :
      session.step = session := Session.step_of_halted ended
  refine ⟨⟨?_, ?_⟩, ?_⟩
  · -- Every turn is accounted for in the session.
    rintro ⟨turns, ended⟩
    obtain ⟨moves, last, -⟩ := linked.play turns schedule
    exact ⟨moves, last.machine ▸ ended⟩
  · rintro ⟨moves, ended⟩
    obtain ⟨others, last, stopped | enough⟩ :=
      linked.play (moves + (start machine stream).reader.readsLeft) schedule
    · exact ⟨_, stopped⟩
    · -- The session has made enough moves to be at its end.
      obtain ⟨rest, rfl⟩ := Nat.exists_eq_add_of_le' (show moves ≤ others by omega)
      rw [Function.iterate_add_apply, iterate_of_final still ended] at last
      exact ⟨_, last.machine ▸ ended⟩
  · intro turns moves ended stopped
    obtain ⟨others, last, -⟩ := linked.play turns schedule
    rw [← last.machine] at ended ⊢
    rw [final_unique still ended stopped]

end Interplay

namespace Workspace

/-- What a finished run of a machine leaves in the world. -/
def conclude (workspace : Workspace) (ended : Machine) (messages : Event → List Message) :
    (Machine × Stats) × Workspace :=
  ((ended, Stats.ofEvents ended.events),
    { workspace with stdin := [] }.send (ended.events.flatMap messages))

/-- The world in memory as a host that lets the reader of standard input and the machine take turns
under a schedule. -/
def scheduledHost (schedule : Nat → Turn) (turns : Nat) (environment : Environment) :
    Host (StateM Workspace) :=
  { host turns environment with
    run := fun machine messages => modifyGet fun workspace =>
      workspace.conclude (Interplay.play schedule turns (.start machine workspace.stdin)).machine
        messages }

end Workspace

/-- A call of the runner has come to its end: it has nothing to run, or the run is over. -/
def Runner.Ended : Runner × Except StartError Machine → Prop
  | (_, .error _) => True
  | (_, .ok machine) => machine.isHalted = true

/-- What a runner and the world are after a run that left a machine. -/
def Runner.leave (runner : Runner) (logger : Option Logger) (workspace : Workspace)
    (ended : Machine) : (Runner × Except StartError Machine) × Workspace :=
  let (stats, shown) := (workspace.conclude ended (messages runner.config logger)).map Prod.snd id
  let (runner, last) := runner.finish logger stats ended
  ((runner, .ok ended), shown.send last)

end TapeMachine
