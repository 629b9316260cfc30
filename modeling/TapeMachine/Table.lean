import TapeMachine.Text.Directive
import TapeMachine.Text.Letter
import TapeMachine.Text.Wrap

/-! Titled tables drawn with `+`, `-` and `|`. -/

namespace TapeMachine

/-- One cell of a table. -/
inductive Cell where
  /-- A text, written to the left of its column. -/
  | text (value : String)
  /-- A value that is ordered as a number, written to the right if all its column is. -/
  | number (value : String)
  deriving DecidableEq, Repr

namespace Cell

/-- What the cell shows. -/
def shown : Cell → String
  | text value => value
  | number value => value

/-- Whether the cell holds a number. -/
def isNumber : Cell → Bool
  | text _ => false
  | number _ => true

end Cell

/-- The cell of a natural number. -/
def natCell (n : Nat) : Cell := .number (decimal n)

/-- One line of a table's body. -/
inductive TableRow where
  /-- The cells of one row. -/
  | cells (values : List Cell)
  /-- A ruled line between rows. -/
  | rule
  deriving DecidableEq, Repr

/-- A titled table; its cells hold ASCII text, and its title may hold any bytes. -/
structure Table where
  /-- A template without arguments. -/
  title : Bytes
  /-- The names of the columns. -/
  header : List String
  /-- The rows and the rules between them. -/
  rows : List TableRow

namespace Table

/-- The cells of the rows, without the rules. -/
def body (table : Table) : List (List Cell) :=
  table.rows.filterMap fun
    | .cells values => some values
    | .rule => none

/-- The cells of one column. -/
def column (table : Table) (index : Nat) : List Cell :=
  table.body.filterMap (·[index]?)

/-- The width of each column: that of its widest cell or of its name. -/
def widths (table : Table) : List Nat :=
  table.header.mapIdx fun index name =>
    ((table.column index).map fun cell => cell.shown.length).foldl max name.length

/-- Whether each column holds numbers only, and is therefore written to the right. -/
def rightward (table : Table) : List Bool :=
  table.header.mapIdx fun index _ => (table.column index).all Cell.isNumber

/-- Fills a text with spaces up to a width, on its left or on its right. -/
def pad (width : Nat) (toRight : Bool) (text : String) : String :=
  let spaces := String.ofList (List.replicate (width - text.length) ' ')
  if toRight then spaces ++ text else text ++ spaces

/-- How a column is set: its width, and whether its texts stand to the right. -/
def layout (table : Table) : List (Nat × Bool) := table.widths.zip table.rightward

/-- One row of padded texts between bars. -/
def rowLine (layout : List (Nat × Bool)) (texts : List String) : String :=
  let padded := (texts.zip layout).map fun (text, width, toRight) => pad width toRight text
  "| " ++ String.intercalate " | " padded ++ " |"

/-- A ruled line with a joint at each column border. -/
def ruleLine (layout : List (Nat × Bool)) : String :=
  let dashes := layout.map fun (width, _) => String.ofList (List.replicate (width + 2) '-')
  "+" ++ String.intercalate "+" dashes ++ "+"

/-- The columns between the padding of a line that spans the whole table. -/
def innerWidth (table : Table) : Nat :=
  table.widths.foldl (· + ·) 0 + 3 * (table.widths.length - 1)

/-- The lines of the title, each without surrounding white space and filled to the inner width. -/
def titleLines (table : Table) : List Bytes :=
  let title := Utf8Unit.ofBytes (expandTemplate table.title)
  (wrapText table.innerWidth title).map fun line =>
    let kept := trimBlank (line.flatMap Utf8Unit.bytes)
    let columns := displayWidth ((Utf8Unit.ofBytes kept).map Utf8Unit.shown)
    let spaces := String.ofList (List.replicate (table.innerWidth - columns) ' ')
    utf8 "| " ++ kept ++ utf8 (spaces ++ " |")

/-- The lines of a table. -/
def lines (table : Table) : List Bytes :=
  let layout := table.layout
  let edge := utf8 ("+" ++ String.ofList (List.replicate (table.innerWidth + 2) '-') ++ "+")
  let rule := utf8 (ruleLine layout)
  let body := table.rows.map fun
    | .cells values => utf8 (rowLine layout (values.map Cell.shown))
    | .rule => rule
  [edge] ++ table.titleLines ++ [rule, utf8 (rowLine layout (table.header.map upperCase)), rule] ++
    body ++ [rule]

/-- Draws a table; no line feed follows its last line. -/
def render (table : Table) : Bytes := joinWith [newline] table.lines

end Table

end TapeMachine
