import TapeMachine.Machine.Basic

/-! Runs: a machine together with a script of what its line source will hand out. -/

namespace TapeMachine

/-- A machine and the entries that its line source still holds. After the last entry the source
reports the end of the input for ever. -/
structure Session where
  /-- The machine. -/
  machine : Machine
  /-- The entries that have not been asked for yet. -/
  script : List Entry
  deriving Repr

namespace Session

/-- The next entry of the line source is handed to the machine. -/
def handOver (session : Session) : Session :=
  match session.script with
  | [] => ⟨session.machine.receive .endOfInput, []⟩
  | entry :: script => ⟨session.machine.receive entry, script⟩

/-- One move. -/
def step (session : Session) : Session :=
  match session.machine.status with
  | .ready => { session with machine := session.machine.advance }
  | .stopped => session.handOver
  | .asking => session.handOver
  | .halted _ => session

/-- At most `fuel` moves, until the run is over. -/
def run : Nat → Session → Session
  | 0, session => session
  | fuel + 1, session => if session.machine.isHalted then session else run fuel session.step

/-- Runs the program again on the same machine. -/
def restart (session : Session) : Session := { session with machine := session.machine.restart }

end Session

end TapeMachine
