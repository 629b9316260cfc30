import TapeMachine.Proofs.Input.Exchange
import Mathlib.Logic.Function.Basic

/-! A reader, everyone who may close its queue, and a consumer that waits. What happens to the queue
and what wakes the consumer are separate steps, and no wake-up is lost between them. -/

namespace TapeMachine

namespace LineQueue

/-- Closing a queue leaves its lines alone. -/
theorem waiting_close (queue : LineQueue) (reason : CloseReason) :
    (queue.close reason).waiting = queue.waiting := by
  unfold close
  split <;> rfl

/-- A line leaves the closing of a queue alone. -/
theorem closing_push (queue : LineQueue) (line : Bytes) :
    (queue.push line).closing = queue.closing := by
  unfold push
  split <;> rfl

/-- A queue is closed once somebody has closed it. -/
theorem closing_close_ne_none (queue : LineQueue) (reason : CloseReason) :
    (queue.close reason).closing ≠ none := by
  unfold close
  split
  · rename_i closing closed
    simp [closed]
  · simp

/-- What a queue hands out leaves its closing alone. -/
theorem closing_take? {queue left : LineQueue} {entry : Entry}
    (found : queue.take? = some (entry, left)) : left.closing = queue.closing := by
  rcases take?_cases found with ⟨-, -, -, rest⟩ | ⟨-, -, -, -, rfl⟩
  · rw [rest]
  · rfl

/-- A queue that has nothing to hand out is open, and holds no line. -/
theorem of_take?_none {queue : LineQueue} (nothing : queue.take? = none) :
    queue.waiting = [] ∧ queue.closing = none := by
  unfold take? at nothing
  split at nothing
  · cases nothing
  · rename_i empty
    exact ⟨empty, Option.map_eq_none_iff.mp nothing⟩

end LineQueue

/-- Who closes the queue. -/
inductive Closer where
  /-- The reader, at the end of its stream. -/
  | reader
  /-- Whoever watches the run that the reader reads for. -/
  | watcher
  /-- A caller that stops the reader, one of any number. -/
  | stopper (call : Nat)
  deriving DecidableEq, Repr

/-- How far a closer has come. Only the first one gets beyond asking before the queue is closed. -/
inductive Closure where
  /-- It has not begun. -/
  | idle
  /-- It asks whether it is the first one. -/
  | asking (reason : CloseReason)
  /-- It is the first one, and is about to mark the queue as closed. -/
  | entered (reason : CloseReason)
  /-- It has marked the queue, and is about to signal that. -/
  | marked
  /-- It has finished. -/
  | done
  deriving DecidableEq, Repr

/-- Where the consumer is. -/
inductive Consumer where
  /-- It does not ask for a line. -/
  | idle
  /-- It is about to look into the queue. -/
  | looking
  /-- It has found nothing in the queue, and is about to wait. -/
  | turning
  /-- It waits until something wakes it. -/
  | waiting
  deriving DecidableEq, Repr

/-- A reader with its queue, and everything that wakes the consumer. -/
structure Handoff where
  /-- The reader with its queue. -/
  reader : Reader
  /-- Whether the reader has put a line into the queue and not yet sent the wake-up for it. -/
  owing : Bool
  /-- Whether a wake-up has been sent that nobody has taken. There is room for one. -/
  token : Bool
  /-- Whether it has been signalled that the queue is closed. -/
  signalled : Bool
  /-- The first closer. -/
  first : Option Closer
  /-- How far each closer has come. -/
  closure : Closer → Closure
  /-- Where the consumer is. -/
  consumer : Consumer
  /-- Whether the call that the consumer is in has been cancelled. -/
  revoked : Bool

namespace Handoff

/-- Nothing has happened yet. -/
def fresh : Handoff := ⟨.fresh, false, false, false, none, fun _ => .idle, .idle, false⟩

section

variable (handoff : Handoff)

/-- The queue between the reader and the consumer. -/
def queue : LineQueue := handoff.reader.queue

/-- The queue takes another form. -/
def withQueue (queue : LineQueue) : Handoff :=
  { handoff with reader := { handoff.reader with queue := queue } }

/-- A closer comes to a point. -/
def bring (closer : Closer) (closure : Closure) : Handoff :=
  { handoff with closure := Function.update handoff.closure closer closure }

/-- The reader puts a piece into the queue as a line; only a queue that takes it needs a wake-up. -/
def push (piece rest : Bytes) : Handoff :=
  { handoff with
    reader := handoff.reader.pushPiece piece rest
    owing := handoff.queue.closing.isNone }

/-- The reader sends the wake-up for its line, which is lost if there is one already. -/
def send : Handoff := { handoff with token := true, owing := false }

/-- A closer marks the queue as closed. -/
def mark (closer : Closer) (reason : CloseReason) : Handoff :=
  (handoff.withQueue (handoff.queue.close reason)).bring closer .marked

/-- A closer signals that the queue is closed. -/
def signal (closer : Closer) : Handoff :=
  { handoff.bring closer .done with signalled := true }

/-- Something wakes the consumer, or would do so if it waited. -/
def Ready : Prop :=
  handoff.token = true ∨ handoff.signalled = true ∨ handoff.revoked = true

/-- Whether the reader can read on: it is at work, and has neither a wake-up to send nor begun to
close the queue. -/
def isFree : Prop :=
  handoff.reader.isReading = true ∧ handoff.owing = false ∧ handoff.closure .reader = .idle

end

/-- The steps that are due once a line has been put into the queue, or the queue has been marked as
closed. -/
inductive Due (before : Handoff) : Handoff → Prop
  /-- The reader sends the wake-up for its line. -/
  | sent (owing : before.owing = true) : Due before before.send
  /-- The closer signals that the queue is closed. -/
  | signalled {closer : Closer} (marked : before.closure closer = .marked) :
      Due before (before.signal closer)

/-- One atomic step of anyone who takes part. -/
inductive Step (before : Handoff) : Reply → Handoff → Prop
  /-- The reader is started. -/
  | started : Step before .silence { before with reader := { before.reader with started := true } }
  /-- Bytes of the stream arrive. -/
  | arrived (bytes : Bytes) (going : before.reader.ending = none) :
      Step before .silence { before with
        reader := { before.reader with unread := before.reader.unread ++ bytes } }
  /-- The stream ends, or fails. -/
  | ended (reason : CloseReason) (going : before.reader.ending = none) :
      Step before .silence { before with reader := { before.reader with ending := some reason } }
  /-- The run that the reader was started for is cancelled. -/
  | cancelled :
      Step before .silence { before with reader := { before.reader with cancelled := true } }
  /-- The reader puts its next line into the queue. -/
  | pushed {piece rest : Bytes} (free : before.isFree)
      (next : before.reader.nextPiece? = some (piece, rest)) :
      Step before .silence (before.push piece rest)
  /-- A line or a closing is followed up. -/
  | due {after : Handoff} (due : before.Due after) : Step before .silence after
  /-- At the end of the stream the reader begins to close the queue. -/
  | exhausted {reason : CloseReason} (free : before.isFree)
      (nothing : before.reader.nextPiece? = none) (atEnd : before.reader.ending = some reason) :
      Step before .silence (before.bring .reader (.asking reason))
  /-- A reader that was told to stop exits. -/
  | left (settled : before.owing = false) (idle : before.closure .reader = .idle)
      (told : before.reader.stopped = true) :
      Step before .silence { before with reader := { before.reader with exited := true } }
  /-- A reader that has closed the queue exits. -/
  | exited (done : before.closure .reader = .done) :
      Step before .silence { before with reader := { before.reader with exited := true } }
  /-- Whoever watches the run begins to close the queue. -/
  | watched (working : before.reader.started = true) (cancelled : before.reader.cancelled = true)
      (idle : before.closure .watcher = .idle) :
      Step before .silence (before.bring .watcher (.asking .cancelled))
  /-- Nothing is left to watch for. -/
  | unwatched (idle : before.closure .watcher = .idle) (signalled : before.signalled = true) :
      Step before .silence (before.bring .watcher .done)
  /-- A caller tells the reader to stop, and begins to close the queue. -/
  | stopped (call : Nat) (idle : before.closure (.stopper call) = .idle) :
      Step before .silence ({ before with
        reader := { before.reader with stopped := true } }.bring (.stopper call) (.asking .ended))
  /-- A closer is the first one. -/
  | entered {closer : Closer} {reason : CloseReason}
      (asking : before.closure closer = .asking reason) (nobody : before.first = none) :
      Step before .silence { before.bring closer (.entered reason) with first := some closer }
  /-- The first closer marks the queue as closed. -/
  | marked {closer : Closer} {reason : CloseReason}
      (entered : before.closure closer = .entered reason) :
      Step before .silence (before.mark closer reason)
  /-- A closer that is not the first one has waited until the first one has finished. -/
  | passed {closer : Closer} {reason : CloseReason}
      (asking : before.closure closer = .asking reason) (signalled : before.signalled = true) :
      Step before .silence (before.bring closer .done)
  /-- The consumer asks for a line, in a call that may have been cancelled already. -/
  | called (idle : before.consumer = .idle) (revoked : Bool) :
      Step before .silence { before with consumer := .looking, revoked := revoked }
  /-- The call of the consumer is cancelled. -/
  | revoked : Step before .silence { before with revoked := true }
  /-- The consumer finds something in the queue and returns with it. -/
  | handed {entry : Entry} {left : LineQueue} (looking : before.consumer = .looking)
      (found : before.queue.take? = some (entry, left)) :
      Step before (.handed entry) { before.withQueue left with consumer := .idle }
  /-- The consumer finds nothing in the queue. -/
  | turned (looking : before.consumer = .looking) (nothing : before.queue.take? = none) :
      Step before .silence { before with consumer := .turning }
  /-- The consumer begins to wait. -/
  | waited (turning : before.consumer = .turning) :
      Step before .silence { before with consumer := .waiting }
  /-- A wake-up makes the consumer look again. -/
  | woken (waiting : before.consumer = .waiting) (token : before.token = true) :
      Step before .silence { before with consumer := .looking, token := false }
  /-- The closing makes the consumer look again. -/
  | roused (waiting : before.consumer = .waiting) (signalled : before.signalled = true) :
      Step before .silence { before with consumer := .looking }
  /-- The consumer returns since its call has been cancelled. -/
  | gaveUp (waiting : before.consumer = .waiting) (revoked : before.revoked = true) :
      Step before .givenUp { before with consumer := .idle }

/-- The handoffs that come from one by steps in any order. -/
inductive Reaches (start : Handoff) : Handoff → Prop
  /-- The handoff itself. -/
  | refl : Reaches start start
  /-- One more step. -/
  | step {handoff after : Handoff} {reply : Reply} : Reaches start handoff →
      Step handoff reply after → Reaches start after

/-- What holds at every moment: behind a look that has found nothing, each line in the queue has had
its wake-up or still gets it; a queue is closed just if that has been signalled or still is; and
only the first closer gets at the queue, before it has signalled. -/
structure Sound (handoff : Handoff) : Prop where
  offered : handoff.consumer = .turning ∨ handoff.consumer = .waiting →
    handoff.queue.waiting ≠ [] → handoff.token = true ∨ handoff.owing = true
  closed : handoff.queue.closing ≠ none ↔
    handoff.signalled = true ∨ ∃ closer, handoff.closure closer = .marked
  alone : ∀ closer, (∃ reason, handoff.closure closer = .entered reason) ∨
    handoff.closure closer = .marked → handoff.first = some closer ∧ handoff.signalled = false
  silent : handoff.first = none → handoff.signalled = false

/-- Before anything happens nothing is in the queue, and nobody has begun to close it. -/
theorem sound_fresh : Sound fresh where
  offered calls := by rcases calls with calls | calls <;> cases calls
  closed := by simp [fresh, queue, Reader.fresh, LineQueue.empty]
  alone closer begun := by simp [fresh] at begun
  silent _ := rfl

/-- Away from the queue a closer makes no difference to who has marked it. -/
theorem marked_bring_iff {handoff : Handoff} {closer : Closer} {closure : Closure}
    (outside : handoff.closure closer ≠ .marked) (away : closure ≠ .marked) (other : Closer) :
    (handoff.bring closer closure).closure other = .marked ↔ handoff.closure other = .marked := by
  show Function.update handoff.closure closer closure other = .marked ↔ _
  -- Only the closer itself has moved.
  by_cases same : other = closer
  · rw [same, Function.update_self]
    exact ⟨fun marked => absurd marked away, fun marked => absurd marked outside⟩
  · rw [Function.update_of_ne same]

namespace Sound

variable {before : Handoff}

/-- A closer comes to a point at which it is not at the queue, and has not been there before. -/
theorem bring (sound : Sound before) {closer : Closer} {closure : Closure}
    (outside : before.closure closer ≠ .marked) (away : closure ≠ .marked)
    (out : ∀ reason, closure ≠ .entered reason) : Sound (before.bring closer closure) := by
  refine { sound with closed := ?_, alone := ?_ }
  · refine sound.closed.trans (or_congr_right ?_)
    exact exists_congr fun other => (marked_bring_iff outside away other).symm
  · intro other begun
    -- A closer at the queue is another one, and was there before.
    rcases begun with ⟨reason, entered⟩ | marked
    · by_cases same : other = closer
      · rw [same] at entered
        exact absurd ((Function.update_self ..).symm.trans entered) (out reason)
      · exact sound.alone other (.inl ⟨reason, (Function.update_of_ne same ..).symm.trans entered⟩)
    · exact sound.alone other (.inr ((marked_bring_iff outside away other).mp marked))

/-- Nobody has been the first closer before. -/
theorem enter (sound : Sound before) {closer : Closer} {reason : CloseReason}
    (asking : before.closure closer = .asking reason) (nobody : before.first = none) :
    Sound { before.bring closer (.entered reason) with first := some closer } := by
  have outside : before.closure closer ≠ .marked := by rw [asking]; nofun
  refine { sound with closed := ?_, alone := ?_, silent := nofun }
  · refine sound.closed.trans (or_congr_right ?_)
    have away : Closure.entered reason ≠ .marked := nofun
    exact exists_congr fun other => (marked_bring_iff outside away other).symm
  · intro other begun
    refine ⟨?_, sound.silent nobody⟩
    by_cases same : other = closer
    · rw [same]
    · -- Any other closer at the queue would have been the first one already.
      have there : (before.bring closer (.entered reason)).closure other = before.closure other :=
        Function.update_of_ne same ..
      have known := (sound.alone other (there ▸ begun)).1
      rw [nobody] at known
      cases known

/-- The first closer marks the queue, and the lines in it stay. -/
theorem mark (sound : Sound before) {closer : Closer} {reason : CloseReason}
    (entered : before.closure closer = .entered reason) : Sound (before.mark closer reason) := by
  have queue : (before.mark closer reason).queue = before.queue.close reason := rfl
  have here : (before.mark closer reason).closure closer = .marked := Function.update_self ..
  refine { offered := ?_, closed := ?_, alone := ?_, silent := sound.silent }
  -- Closing leaves the lines in the queue, and marks it for whoever looks.
  · rw [queue, LineQueue.waiting_close]
    exact sound.offered
  · rw [queue]
    exact ⟨fun _ => .inr ⟨closer, here⟩, fun _ => before.queue.closing_close_ne_none reason⟩
  · intro other begun
    by_cases same : other = closer
    · rw [same]
      exact sound.alone closer (.inl ⟨reason, entered⟩)
    · have there : (before.mark closer reason).closure other = before.closure other :=
        Function.update_of_ne same ..
      exact sound.alone other (there ▸ begun)

/-- Only the first closer can have marked the queue, so that nobody signals twice. -/
theorem signal (sound : Sound before) {closer : Closer}
    (marked : before.closure closer = .marked) : Sound (before.signal closer) := by
  have first := (sound.alone closer (.inr marked)).1
  refine { sound with closed := ?_, alone := ?_, silent := ?_ }
  · exact ⟨fun _ => .inl rfl, fun _ => sound.closed.mpr (.inr ⟨closer, marked⟩)⟩
  · intro other begun
    by_cases same : other = closer
    -- The closer that has signalled is done, and nobody else had come so far.
    · have done : (before.signal closer).closure other = .done := by
        rw [same]
        exact Function.update_self ..
      rw [done] at begun
      rcases begun with ⟨reason, entered⟩ | marked
      · cases entered
      · cases marked
    · have there : (before.signal closer).closure other = before.closure other :=
        Function.update_of_ne same ..
      have known := (sound.alone other (there ▸ begun)).1
      rw [first] at known
      exact absurd (Option.some.inj known).symm same
  · intro nobody
    rw [show (before.signal closer).first = before.first from rfl, first] at nobody
    cases nobody

/-- A line comes into an open queue together with the wake-up that is due for it. -/
theorem push (sound : Sound before) (settled : before.owing = false) (piece rest : Bytes) :
    Sound (before.push piece rest) := by
  have queue : (before.push piece rest).queue = before.queue.push (trimLineEnd piece) := rfl
  have owing : (before.push piece rest).owing = before.queue.closing.isNone := rfl
  cases closing : before.queue.closing with
  | none =>
    rw [LineQueue.push_of_open closing] at queue
    refine { sound with offered := fun _ _ => .inr (by rw [owing, closing]; rfl), closed := ?_ }
    rw [queue]
    exact sound.closed
  | some reason =>
    -- A closed queue takes no line, and those in it have had their wake-up.
    rw [LineQueue.push_of_closed closing] at queue
    refine { sound with offered := ?_, closed := ?_ }
    · intro calls lines
      rw [queue] at lines
      have token := (sound.offered calls lines).resolve_right (by rw [settled]; nofun)
      exact .inl token
    · rw [queue]
      exact sound.closed

/-- What the queue hands out leaves its closing alone. -/
theorem hand (sound : Sound before) {entry : Entry} {left : LineQueue}
    (found : before.queue.take? = some (entry, left)) :
    Sound { before.withQueue left with consumer := .idle } := by
  have closing := LineQueue.closing_take? found
  refine { sound with offered := ?_, closed := ?_ }
  · intro calls
    -- The consumer does not wait any more, so that no wake-up is due to it.
    rcases calls with calls | calls <;> cases calls
  · refine Iff.trans ?_ sound.closed
    show left.closing ≠ none ↔ before.queue.closing ≠ none
    rw [closing]

end Sound

/-- A handoff stays sound, whoever takes the next step. -/
theorem Step.sound {before after : Handoff} {reply : Reply} (step : Step before reply after)
    (sound : Sound before) : Sound after := by
  -- Most steps touch nothing that soundness is about; the others have their lemmas above.
  cases step with
  | started => exact { sound with }
  | arrived bytes going => exact { sound with }
  | ended reason going => exact { sound with }
  | cancelled => exact { sound with }
  | pushed free next => exact sound.push free.2.1 _ _
  | due due =>
    cases due with
    | sent owing => exact { sound with offered := fun _ _ => .inl rfl }
    | signalled marked => exact sound.signal marked
  | exhausted free nothing atEnd =>
    exact sound.bring (by rw [free.2.2]; nofun) nofun nofun
  | left settled idle told => exact { sound with }
  | exited done => exact { sound with }
  | watched working cancelled idle => exact sound.bring (by rw [idle]; nofun) nofun nofun
  | unwatched idle signalled => exact sound.bring (by rw [idle]; nofun) nofun nofun
  | stopped call idle =>
    have told : Sound { before with reader := { before.reader with stopped := true } } :=
      { sound with }
    exact told.bring (by simp only; rw [idle]; nofun) nofun nofun
  | entered asking nobody => exact sound.enter asking nobody
  | marked entered => exact sound.mark entered
  | passed asking signalled => exact sound.bring (by rw [asking]; nofun) nofun nofun
  | called idle revoked =>
    exact { sound with offered := fun calls => by rcases calls with calls | calls <;> cases calls }
  | revoked => exact { sound with }
  | handed looking found => exact sound.hand found
  | turned looking nothing =>
    -- A queue that has nothing to hand out holds no line.
    have empty := (LineQueue.of_take?_none nothing).1
    exact { sound with offered := fun _ lines => absurd empty lines }
  | waited turning => exact { sound with offered := fun _ => sound.offered (.inl turning) }
  | woken waiting token =>
    exact { sound with offered := fun calls => by rcases calls with calls | calls <;> cases calls }
  | roused waiting signalled =>
    exact { sound with offered := fun calls => by rcases calls with calls | calls <;> cases calls }
  | gaveUp waiting revoked =>
    exact { sound with offered := fun calls => by rcases calls with calls | calls <;> cases calls }

/-- Whatever is reached is sound. -/
theorem Reaches.sound {handoff : Handoff} (reached : fresh.Reaches handoff) : Sound handoff := by
  induction reached with
  | refl => exact sound_fresh
  | step _ step ih => exact step.sound ih

/-- What is reached from a reached handoff is reached. -/
theorem Reaches.trans {start middle last : Handoff} (early : start.Reaches middle)
    (late : middle.Reaches last) : start.Reaches last := by
  induction late with
  | refl => exact early
  | step _ step ih => exact ih.step step

/-- Whatever would wake the consumer goes on doing so until the consumer is awake. -/
theorem Step.ready {before after : Handoff} {reply : Reply} (step : Step before reply after)
    (ready : before.Ready) (waiting : after.consumer = .waiting) : after.Ready := by
  -- A step that would use the wake-up up leaves the consumer awake.
  cases step with
  | due due =>
    cases due with
    | sent owing => exact .inl rfl
    | signalled marked => exact .inr (.inl rfl)
  | called idle revoked => cases waiting
  | revoked => exact .inr (.inr rfl)
  | handed looking found => cases waiting
  | turned looking nothing => cases waiting
  | woken waited token => cases waiting
  | roused waited signalled => cases waiting
  | gaveUp waited revoked => cases waiting
  | _ => exact ready

/-- The consumer can go on as soon as something wakes it. -/
theorem Ready.exists_step {handoff : Handoff} (ready : handoff.Ready)
    (waiting : handoff.consumer = .waiting) :
    ∃ reply after, Step handoff reply after ∧ after.consumer ≠ .waiting := by
  rcases ready with token | signalled | revoked
  -- Each of the three has a branch of the wait of its own.
  · exact ⟨_, _, .woken waiting token, nofun⟩
  · exact ⟨_, _, .roused waiting signalled, nofun⟩
  · exact ⟨_, _, .gaveUp waiting revoked, nofun⟩

/-- How the call of the consumer ends. -/
inductive Returns (before : Handoff) : Reply → Handoff → Prop
  /-- With the oldest line of the queue. -/
  | line {text : Bytes} {after : Handoff}
      (oldest : before.queue.waiting = text :: after.queue.waiting) :
      Returns before (.handed (.line text)) after
  /-- With the reason of the closing, once no line is left. -/
  | closed {closing : Closing} {after : Handoff} (closed : before.queue.closing = some closing)
      (empty : before.queue.waiting = []) (same : after.queue = before.queue) :
      Returns before (.handed closing.reason.entry) after
  /-- With its own cancellation. -/
  | revoked {after : Handoff} (revoked : before.revoked = true)
      (same : after.queue = before.queue) : Returns before .givenUp after

/-- A step is silent and ends no call, or it ends one with what the caller has asked for. -/
theorem Step.returns {before after : Handoff} {reply : Reply} (step : Step before reply after) :
    reply = .silence ∧ (after.consumer = .idle → before.consumer = .idle) ∨
      Returns before reply after := by
  cases step with
  | due due => cases due <;> exact .inl ⟨rfl, id⟩
  | handed looking found =>
    refine .inr ?_
    -- The queue hands out a line as long as it has one, and then its reason.
    rcases LineQueue.take?_cases found with
      ⟨text, rfl, oldest, -⟩ | ⟨closing, closed, empty, rfl, rfl⟩
    · exact .line oldest
    · exact .closed closed empty rfl
  | gaveUp waiting revoked => exact .inr (.revoked revoked rfl)
  | called idle revoked => exact .inl ⟨rfl, nofun⟩
  | turned looking nothing => exact .inl ⟨rfl, nofun⟩
  | waited turning => exact .inl ⟨rfl, nofun⟩
  | woken waiting token => exact .inl ⟨rfl, nofun⟩
  | roused waiting signalled => exact .inl ⟨rfl, nofun⟩
  | _ => exact .inl ⟨rfl, id⟩

/-- Nobody is under way: all that has begun has been followed up. -/
structure Rests (handoff : Handoff) : Prop where
  settled : handoff.owing = false
  idle : handoff.consumer = .idle
  working : handoff.reader.exited = false → handoff.closure .reader = .idle
  watching : handoff.closure .watcher = .idle ∨ handoff.queue.closing ≠ none
  spare : ∃ calls, ∀ call, calls ≤ call → handoff.closure (.stopper call) = .idle
  opened : handoff.queue.closing = none → handoff.first = none
  closed : handoff.queue.closing ≠ none → handoff.signalled = true

/-- At the beginning nobody is about to do anything. -/
theorem rests_fresh : Rests fresh where
  settled := rfl
  idle := rfl
  working _ := rfl
  watching := .inl rfl
  spare := ⟨0, fun _ _ => rfl⟩
  opened _ := rfl
  closed closed := absurd rfl closed

/-- A closer that asks gets the queue closed, by itself or by the first closer before it. -/
theorem exists_reaches_closed (handoff : Handoff) {closer : Closer} {reason : CloseReason}
    (asking : handoff.closure closer = .asking reason)
    (opened : handoff.queue.closing = none → handoff.first = none)
    (closed : handoff.queue.closing ≠ none → handoff.signalled = true) :
    ∃ after, handoff.Reaches after ∧ after.signalled = true ∧
      after.reader = { handoff.reader with queue := handoff.queue.close reason } ∧
      after.closure = Function.update handoff.closure closer .done ∧
      after.owing = handoff.owing ∧ after.consumer = handoff.consumer := by
  cases closing : handoff.queue.closing with
  | none =>
    -- The first closer marks the queue and signals; any other one finds that done.
    have entered : handoff.Reaches _ := .step .refl (.entered asking (opened closing))
    have marked := entered.step (.marked (Function.update_self ..))
    have signalled := marked.step (.due (.signalled (Function.update_self ..)))
    refine ⟨_, signalled, rfl, rfl, ?_, rfl, rfl⟩
    simp only [Handoff.signal, Handoff.mark, Handoff.bring, Handoff.withQueue,
      Function.update_idem]
  | some first =>
    -- The queue keeps its first closing.
    have told : handoff.signalled = true := closed (by simp [closing])
    refine ⟨_, .step .refl (.passed asking told), told, ?_, rfl, rfl, rfl⟩
    rw [LineQueue.close_of_closed closing]
    rfl

namespace Rests

variable {handoff : Handoff} (rests : Rests handoff)

include rests

/-- The reader can change as long as its queue is as open as before. -/
theorem of_reader {reader : Reader} (same : reader.queue.closing = handoff.queue.closing)
    (working : reader.exited = false → handoff.reader.exited = false) :
    Rests { handoff with reader := reader } where
  settled := rests.settled
  idle := rests.idle
  working on := rests.working (working on)
  watching := by
    show _ ∨ reader.queue.closing ≠ none
    rw [same]
    exact rests.watching
  spare := rests.spare
  opened := by
    show reader.queue.closing = none → _
    rw [same]
    exact rests.opened
  closed := by
    show reader.queue.closing ≠ none → _
    rw [same]
    exact rests.closed

/-- A closer that finishes leaves other callers that can still stop the reader. -/
theorem spare_update (closer : Closer) : ∃ calls, ∀ call, calls ≤ call →
    Function.update handoff.closure closer .done (.stopper call) = .idle := by
  obtain ⟨calls, spare⟩ := rests.spare
  -- Only a finished stopper is not spare any more, and later ones are.
  cases closer with
  | stopper turn =>
    refine ⟨max calls (turn + 1), fun call later => ?_⟩
    have other : Closer.stopper call ≠ .stopper turn := by
      intro same
      cases same
      omega
    rw [Function.update_of_ne other]
    exact spare call (by omega)
  | reader =>
    refine ⟨calls, fun call later => ?_⟩
    have other : Closer.stopper call ≠ .reader := nofun
    rw [Function.update_of_ne other]
    exact spare call later
  | watcher =>
    refine ⟨calls, fun call later => ?_⟩
    have other : Closer.stopper call ≠ .watcher := nofun
    rw [Function.update_of_ne other]
    exact spare call later

/-- A reader at work reads on. -/
theorem isFree (reading : handoff.reader.isReading = true) : handoff.isFree :=
  ⟨reading, rests.settled, rests.working (handoff.reader.isReading_iff.mp reading).2⟩

/-- A line that the reader pushes is followed up at once. -/
theorem exists_reaches_pushed (reading : handoff.reader.isReading = true) {piece rest : Bytes}
    (next : handoff.reader.nextPiece? = some (piece, rest)) :
    ∃ after, handoff.Reaches after ∧ Rests after ∧
      after.reader = handoff.reader.pushPiece piece rest := by
  have pushed : handoff.Reaches (handoff.push piece rest) :=
    .step .refl (.pushed (rests.isFree reading) next)
  have kept : (handoff.reader.pushPiece piece rest).queue.closing = handoff.queue.closing :=
    LineQueue.closing_push _ _
  have calm := rests.of_reader kept id
  cases closing : handoff.queue.closing with
  | none =>
    -- An open queue owes a wake-up for the line, and a closed one has not taken it.
    have owing : (handoff.push piece rest).owing = true := by simp [Handoff.push, closing]
    exact ⟨_, pushed.step (.due (.sent owing)), { calm with settled := rfl }, rfl⟩
  | some first =>
    have settled : (handoff.push piece rest).owing = false := by simp [Handoff.push, closing]
    exact ⟨_, pushed, { calm with settled := settled }, rfl⟩

/-- Someone else than the reader closes the queue, perhaps with a word to the reader. -/
theorem exists_reaches_close (reader : Reader) (same : reader.queue = handoff.queue)
    (working : reader.exited = handoff.reader.exited) (closer : Closer) (other : closer ≠ .reader)
    {reason : CloseReason} (asks : Step handoff .silence
      ({ handoff with reader := reader }.bring closer (.asking reason))) :
    ∃ after, handoff.Reaches after ∧ Rests after ∧
      after.reader = { reader with queue := handoff.queue.close reason } := by
  have calm := rests.of_reader (by rw [same]) fun on => working ▸ on
  obtain ⟨after, reached, signalled, result, closure, owing, consumer⟩ :=
    exists_reaches_closed ({ handoff with reader := reader }.bring closer (.asking reason))
      (Function.update_self ..) calm.opened calm.closed
  have result : after.reader = { reader with queue := handoff.queue.close reason } := by
    rw [result, ← same]
    rfl
  have closure : after.closure = Function.update handoff.closure closer .done := by
    rw [closure]
    exact Function.update_idem ..
  have closed : after.queue.closing ≠ none := by
    rw [Handoff.queue, result]
    exact handoff.queue.closing_close_ne_none reason
  -- Whoever has closed it, the queue is closed from here on.
  refine ⟨after, (Reaches.step .refl asks).trans reached, ?_, result⟩
  exact {
    settled := owing.trans rests.settled
    idle := consumer.trans rests.idle
    working := by
      rw [result, closure, Function.update_of_ne other.symm, working]
      exact rests.working
    watching := .inr closed
    spare := by
      rw [closure]
      exact rests.spare_update closer
    opened := fun opened => absurd opened closed
    closed := fun _ => signalled }

/-- At the end of the stream the reader closes the queue and exits. -/
theorem exists_reaches_closeAtEnd (reading : handoff.reader.isReading = true)
    (nothing : handoff.reader.nextPiece? = none) {reason : CloseReason}
    (atEnd : handoff.reader.ending = some reason) :
    ∃ after, handoff.Reaches after ∧ Rests after ∧
      after.reader = handoff.reader.closeAtEnd reason := by
  have asks : handoff.Reaches (handoff.bring .reader (.asking reason)) :=
    .step .refl (.exhausted (rests.isFree reading) nothing atEnd)
  obtain ⟨after, reached, signalled, result, closure, owing, consumer⟩ :=
    exists_reaches_closed (handoff.bring .reader (.asking reason)) (Function.update_self ..)
      rests.opened rests.closed
  have closure : after.closure = Function.update handoff.closure .reader .done := by
    rw [closure]
    exact Function.update_idem ..
  have closed : after.queue.closing ≠ none := by
    rw [Handoff.queue, result]
    exact handoff.queue.closing_close_ne_none reason
  have done : after.closure .reader = .done := by rw [closure, Function.update_self]
  refine ⟨_, (asks.trans reached).step (.exited done), ?_, ?_⟩
  · exact {
      settled := owing.trans rests.settled
      idle := consumer.trans rests.idle
      working := nofun
      watching := .inr closed
      spare := by
        show ∃ calls, ∀ call, calls ≤ call → after.closure (.stopper call) = .idle
        rw [closure]
        exact rests.spare_update .reader
      opened := fun opened => absurd opened closed
      closed := fun _ => signalled }
  · rw [result]
    rfl

end Rests

/-- Each step of an exchange can be made in the single steps of a handoff. -/
theorem exists_reaches_exchange {before after : Exchange} {reply : Reply}
    (step : before.Step reply after) {handoff : Handoff} (rests : Rests handoff)
    (same : handoff.reader = before.reader) :
    ∃ later, handoff.Reaches later ∧ Rests later ∧ later.reader = after.reader := by
  have queue : handoff.queue = before.queue := by rw [Handoff.queue, same, Exchange.queue]
  cases step with
  | started =>
    -- What the exchange does at once, the handoff does in a few steps and then rests again.
    refine ⟨_, .step .refl .started, rests.of_reader rfl id, ?_⟩
    rw [same]
  | arrived bytes going =>
    refine ⟨_, .step .refl (.arrived bytes (same ▸ going)), rests.of_reader rfl id, ?_⟩
    rw [same]
  | ended reason going =>
    refine ⟨_, .step .refl (.ended reason (same ▸ going)), rests.of_reader rfl id, ?_⟩
    rw [same]
  | pushed reading next =>
    obtain ⟨later, reached, calm, result⟩ :=
      rests.exists_reaches_pushed (same ▸ reading) (same ▸ next)
    exact ⟨later, reached, calm, by rw [result, same]; rfl⟩
  | closed reading nothing atEnd =>
    obtain ⟨later, reached, calm, result⟩ :=
      rests.exists_reaches_closeAtEnd (same ▸ reading) (same ▸ nothing) (same ▸ atEnd)
    exact ⟨later, reached, calm, by rw [result, same]⟩
  | left told =>
    cases exited : handoff.reader.exited with
    -- A reader that has exited already leaves nothing to do.
    | true =>
      refine ⟨handoff, .refl, rests, ?_⟩
      rw [← same, ← exited]
    | false =>
      have left := Step.left rests.settled (rests.working exited) (same ▸ told)
      refine ⟨_, .step .refl left, rests.of_reader rfl fun on => ?_, ?_⟩
      · cases on
      · rw [same]
  | cancelled =>
    refine ⟨_, .step .refl .cancelled, rests.of_reader rfl id, ?_⟩
    rw [same]
  | watched working revoked =>
    rcases rests.watching with idle | closed
    · have asks : Step handoff .silence _ :=
        .watched (same ▸ working) (same ▸ revoked) idle
      obtain ⟨later, reached, calm, result⟩ :=
        rests.exists_reaches_close handoff.reader rfl rfl .watcher (by decide) asks
      refine ⟨later, reached, calm, ?_⟩
      rw [result, queue, same]
      rfl
    · -- The queue is closed already, and keeps its first closing.
      obtain ⟨closing, known⟩ := Option.ne_none_iff_exists'.mp closed
      refine ⟨handoff, .refl, rests, ?_⟩
      rw [Exchange.close, LineQueue.close_of_closed (queue ▸ known), same]
      rfl
  | stopped =>
    obtain ⟨calls, spare⟩ := rests.spare
    have asks : Step handoff .silence _ := .stopped calls (spare calls (Nat.le_refl _))
    have other : Closer.stopper calls ≠ .reader := Closer.noConfusion
    obtain ⟨later, reached, calm, result⟩ :=
      rests.exists_reaches_close { handoff.reader with stopped := true } rfl rfl _ other asks
    refine ⟨later, reached, calm, ?_⟩
    rw [result, queue, same]
    rfl
  | @handed entry left found =>
    -- A call that finds something returns at once.
    have called : handoff.Reaches _ := .step .refl (.called rests.idle false)
    have closing : left.closing = handoff.queue.closing := by
      rw [queue]
      exact LineQueue.closing_take? found
    have calm : Rests { handoff with reader := { handoff.reader with queue := left } } :=
      rests.of_reader closing id
    refine ⟨_, called.step (.handed rfl (queue ▸ found)), { calm with idle := rfl }, ?_⟩
    rw [Exchange.hand, ← same]
    rfl
  | waited nothing => exact ⟨handoff, .refl, rests, same⟩
  | gaveUp waiting => exact ⟨handoff, .refl, rests, same⟩

/-- Whatever a reader comes to by its operations, it comes to in the single steps of a handoff. -/
theorem exists_reaches_operations (operations : List Reader.Operation) :
    ∃ handoff, fresh.Reaches handoff ∧
      handoff.reader = operations.foldl Reader.perform .fresh := by
  obtain ⟨exchange, reached, result⟩ := Exchange.exists_reaches_operations operations
  rw [← result]
  suffices found : ∃ handoff, fresh.Reaches handoff ∧ Rests handoff ∧
      handoff.reader = exchange.reader from
    let ⟨handoff, reached, _, same⟩ := found
    ⟨handoff, reached, same⟩
  clear result
  -- Each step of the exchange is made up for before the next one.
  induction reached with
  | refl => exact ⟨fresh, .refl, rests_fresh, rfl⟩
  | step _ step ih =>
    obtain ⟨handoff, reached, rests, same⟩ := ih
    obtain ⟨later, further, calm, result⟩ := exists_reaches_exchange step rests same
    exact ⟨later, reached.trans further, calm, result⟩

end Handoff

/-- No wake-up is lost with a single consumer. Whenever the consumer waits while a line is in the
queue or the queue is closed, it can go on, or it can do so behind the step that is due for the line
or the closing; nothing takes that away from it before it is awake, and nobody signals the closing
twice. Its calls return only with the oldest line, with the reason of the closing once no line is
left, or with their own cancellation, whatever wake-ups have been left over. -/
theorem no_lost_wakeup {handoff : Handoff} (reached : Handoff.fresh.Reaches handoff) :
    (handoff.consumer = .waiting →
      handoff.queue.waiting ≠ [] ∨ handoff.queue.closing ≠ none →
      handoff.Ready ∨ ∃ after, handoff.Due after ∧ after.Ready) ∧
    (handoff.consumer = .waiting → handoff.Ready →
      (∃ reply after, handoff.Step reply after ∧ after.consumer ≠ .waiting) ∧
      ∀ reply after, handoff.Step reply after → after.consumer = .waiting → after.Ready) ∧
    (∀ closer, handoff.closure closer = .marked → handoff.signalled = false) ∧
    ∀ reply after, handoff.Step reply after →
      reply = .silence ∧ (after.consumer = .idle → handoff.consumer = .idle) ∨
        handoff.Returns reply after := by
  have sound := reached.sound
  refine ⟨fun waiting busy => ?_, fun waiting ready => ⟨ready.exists_step waiting,
    fun reply after step => step.ready ready⟩, fun closer marked =>
    (sound.alone closer (.inr marked)).2, fun reply after step => step.returns⟩
  rcases busy with lines | closed
  -- A line has its token or is owed one; a closing has been signalled or still is.
  · rcases sound.offered (.inr waiting) lines with token | owing
    · exact .inl (.inl token)
    · exact .inr ⟨_, .sent owing, .inl rfl⟩
  · rcases sound.closed.mp closed with signalled | ⟨closer, marked⟩
    · exact .inl (.inr (.inl signalled))
    · exact .inr ⟨_, .signalled marked, .inr (.inl rfl)⟩

/-- The wake-up of a line that has been taken without a wait is left over; it only makes the
consumer look once more. Then a stop marks the queue as closed, and the signal that is due lets the
consumer go on. -/
theorem no_lost_wakeup_left_over :
    ∃ handoff : Handoff, Handoff.fresh.Reaches handoff ∧ handoff.consumer = .waiting ∧
      handoff.queue = ⟨[], 1, some ⟨.ended, 0⟩⟩ ∧ ¬ handoff.Ready ∧
      ∃ after, handoff.Due after ∧ after.Ready := by
  let reader : Reader := { Reader.fresh with queue := ⟨[], 1, none⟩, started := true }
  let calm (token : Bool) (consumer : Consumer) : Handoff :=
    ⟨reader, false, token, false, none, fun _ => .idle, consumer, false⟩
  have sent : Handoff.fresh.Reaches { calm true .idle with
      reader := { reader with queue := ⟨[utf8 "a"], 1, none⟩ } } := by
    have started : Handoff.fresh.Reaches _ := .step .refl .started
    have pushed := (started.step (.arrived (utf8 "a\n") rfl)).step (.pushed ⟨rfl, rfl, rfl⟩
      (by decide +kernel : Reader.nextPiece? _ = some (utf8 "a\n", [])))
    exact pushed.step (.due (.sent rfl))
  have taken : Handoff.fresh.Reaches (calm true .idle) :=
    (sent.step (.called rfl false)).step (.handed rfl rfl)
  -- The token of the line that has been taken is still there.
  have waits : Handoff.fresh.Reaches (calm true .waiting) :=
    ((taken.step (.called rfl false)).step (.turned rfl rfl)).step (.waited rfl)
  have again : Handoff.fresh.Reaches (calm false .waiting) :=
    ((waits.step (.woken rfl rfl)).step (.turned rfl rfl)).step (.waited rfl)
  have asked := again.step (.stopped 0 rfl)
  have entered := asked.step (.entered (Function.update_self ..) rfl)
  have marked := entered.step (.marked (Function.update_self ..))
  have sleeps (handoff : Handoff) (token : handoff.token = false)
      (signalled : handoff.signalled = false) (revoked : handoff.revoked = false) :
      ¬ handoff.Ready := by
    simp [Handoff.Ready, token, signalled, revoked]
  refine ⟨_, marked, rfl, rfl, sleeps _ rfl rfl rfl, ?_⟩
  exact ((no_lost_wakeup marked).1 rfl (.inr nofun)).resolve_left (sleeps _ rfl rfl rfl)

end TapeMachine
