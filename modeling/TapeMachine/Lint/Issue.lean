import TapeMachine.Program.Opcode
import TapeMachine.Text.Numeral

/-! Lint issues: mistakes that can be seen without running a program. -/

namespace TapeMachine

/-- How serious an issue is. -/
inductive Severity where
  /-- The program is certain to fail. -/
  | error
  /-- The program may hang. -/
  | warning
  /-- The program may not be what was meant. -/
  | info
  deriving DecidableEq, Repr

/-- A readable name. -/
def Severity.name : Severity → String
  | error => "error"
  | warning => "warning"
  | info => "info"

/-- What an issue is about. -/
inductive Finding where
  /-- Code in front of the first loop moves the data pointer to this negative offset. -/
  | underflow (offset : Int)
  /-- A loop without a body. -/
  | emptyLoop
  /-- A loop of so many instructions that is reached while the tape is blank. -/
  | deadLoop (instructions : Nat)
  /-- Two neighbours that undo each other. -/
  | cancelling (first second : Op)
  /-- A breakpoint. -/
  | breakpoint
  deriving DecidableEq, Repr

namespace Finding

/-- The name of the kind of finding. -/
def kind : Finding → String
  | underflow _ => "UNDERFLOW"
  | emptyLoop => "EMPTY_LOOP"
  | deadLoop _ => "DEAD_LOOP"
  | cancelling _ _ => "CANCELLING"
  | breakpoint => "BREAKPOINT"

/-- How serious a finding is. -/
def severity : Finding → Severity
  | underflow _ => .error
  | emptyLoop => .warning
  | deadLoop _ => .info
  | cancelling _ _ => .info
  | breakpoint => .info

/-- The explanation of a finding. -/
def message : Finding → String
  | underflow _ => "Data pointer moves below cell 0"
  | emptyLoop => "Empty loop never ends if entered with a non-zero cell"
  | deadLoop _ => "Loop is skipped because the tape is still blank"
  | cancelling first second =>
    "'" ++ (Opcode.basic first).symbolText ++ (Opcode.basic second).symbolText ++
      "' has no effect"
  | breakpoint => "Breakpoint enters the debugger"

/-- A named number that belongs to a finding. -/
def detail? : Finding → Option (String × Int)
  | underflow offset => some ("offset", offset)
  | deadLoop instructions => some ("instructions", instructions)
  | _ => none

/-- One finding of each kind. -/
def kinds : List Finding :=
  [underflow (-1), emptyLoop, deadLoop 0, cancelling .increment .decrement, breakpoint]

end Finding

/-- The severity that goes with the name of a kind; unknown kinds are mere information. -/
def Severity.ofKind (kind : String) : Severity :=
  match Finding.kinds.find? fun finding => finding.kind = kind with
  | some finding => finding.severity
  | none => .info

/-- A finding at a place of the program. -/
structure Issue where
  /-- The place in the listing. -/
  pos : Nat
  /-- The number of loops around it. -/
  depth : Nat
  /-- What was found. -/
  finding : Finding
  deriving DecidableEq, Repr

/-- One line about an issue. -/
def issueLine (kind : String) (pos : Int) (message : String) : String :=
  "[" ++ kind ++ "] " ++ address pos ++ ": " ++ message

/-- The issue in one line. -/
def Issue.line (issue : Issue) : String :=
  issueLine issue.finding.kind issue.pos issue.finding.message

end TapeMachine
