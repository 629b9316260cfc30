import TapeMachine.Host
import TapeMachine.Lint.Basic
import TapeMachine.Table

/-! Lint reports: the issues of a program together with its statistics. -/

namespace TapeMachine

/-- The issues of a program. -/
structure Report where
  /-- The name that the report gives the program. -/
  name : Bytes
  /-- The program. -/
  program : Program
  /-- Its issues by position. -/
  issues : List Issue

/-- Why a report could not be handed out. -/
inductive ReportError where
  /-- Its file could not be made. -/
  | create (error : FileError)
  /-- It could not be written whole. -/
  | write
  deriving DecidableEq, Repr

/-- The wording of a report error. -/
def ReportError.message : ReportError → Bytes
  | create error => utf8 "failed to create report file: " ++ error.message
  | write => utf8 "failed to write report: " ++ sinkFullMessage

namespace Report

/-- Checks a program. -/
def ofProgram (name : Bytes) (program : Program) : Report := ⟨name, program, lint program⟩

/-- The issues of one severity, in the order of the report. -/
def withSeverity (report : Report) (severity : Severity) : List Issue :=
  report.issues.filter fun issue => issue.finding.severity = severity

/-- The issues that make the program certain to fail. -/
def errors (report : Report) : List Issue := report.withSeverity .error

/-- The issues that may make the program hang. -/
def warnings (report : Report) : List Issue := report.withSeverity .warning

/-- The other issues. -/
def infos (report : Report) : List Issue := report.withSeverity .info

/-- Whether the program is certain to fail. -/
def hasErrors (report : Report) : Bool := !report.errors.isEmpty

/-- The table of the program's statistics. -/
def programTable (report : Report) : Table where
  title := utf8 "Program " ++ report.name
  header := ["Item", "Value"]
  rows :=
    [.cells [.text "Instructions", natCell report.program.instructions],
     .cells [.text "Listing length", natCell report.program.length],
     .cells [.text "Max loop depth", natCell report.program.maxDepth],
     .rule] ++
    Opcode.all.map fun opcode => .cells
      [.text (opcode.name ++ " (" ++ opcode.symbolText ++ ")"),
       natCell (report.program.count opcode)]

/-- The table of the issues. -/
def issueTable (report : Report) : Table where
  title := utf8 "Lint Issues"
  header := ["Pos", "Depth", "Severity", "Type", "Message"]
  rows := report.issues.map fun issue => .cells
    [.text (address issue.pos), natCell issue.depth, .text issue.finding.severity.name,
     .text issue.finding.kind, .text issue.finding.message]

/-- The last line of a report. -/
def summary (report : Report) : String :=
  decimal report.errors.length ++ " errors, " ++ decimal report.warnings.length ++
    " warnings, " ++ decimal report.infos.length ++ " infos"

/-- The whole report. -/
def text (report : Report) : Bytes :=
  let issues :=
    if report.issues.isEmpty then utf8 "No lint issues found" else report.issueTable.render
  report.programTable.render ++ [newline, newline] ++ issues ++ [newline, newline] ++
    utf8 report.summary ++ [newline]

/-- Hands the report to a sink: what the sink takes, and whether that is all. -/
def write (report : Report) (room : Option Nat) : Bytes × Except ReportError Unit :=
  match room with
  | none => (report.text, .ok ())
  | some room =>
    if report.text.length ≤ room then (report.text, .ok ())
    else (report.text.take room, .error .write)

/-- Saves the report in a new file. -/
def save {m : Type → Type} [Monad m] (report : Report) (host : Host m) (path : Bytes) :
    m (Except ReportError Unit) := do
  match ← host.createFile path with
  | .error error => return .error (.create error)
  | .ok () =>
    host.send [⟨.file path, report.text⟩]
    return .ok ()

end Report

end TapeMachine
