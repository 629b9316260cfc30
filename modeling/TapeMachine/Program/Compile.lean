import TapeMachine.Program.Code
import TapeMachine.Text.Numeral

/-! Compilation: a source becomes code if its brackets match. -/

namespace TapeMachine

/-- Which bracket could not be matched. -/
inductive BracketFault where
  /-- A loop is still open at the end of the source. -/
  | unclosed
  /-- A loop end has no loop. -/
  | tooClosed
  deriving DecidableEq, Repr

namespace BracketFault

/-- A readable name. -/
def name : BracketFault → String
  | unclosed => "UnclosedLoop"
  | tooClosed => "TooClosedLoop"

/-- The bracket in question. -/
def bracket : BracketFault → String
  | unclosed => "["
  | tooClosed => "]"

/-- The faults in the order of their codes. -/
def all : List BracketFault := [unclosed, tooClosed]

/-- The name of a code, also of one that stands for no fault. -/
def codeName (code : Int) : String := enumName "CompileErrorKind" (all.map name) code

end BracketFault

/-- An unmatched bracket and where it stands. -/
structure CompileError where
  /-- Which bracket could not be matched. -/
  fault : BracketFault
  /-- The offset of the bracket in the source. -/
  offset : Nat
  /-- Its line, counted from one. -/
  line : Nat
  /-- Its column, counted from one in bytes. -/
  column : Nat
  deriving DecidableEq, Repr

/-- The wording of a complaint about a bracket. -/
def bracketComplaint (name bracket : String) (line column offset : Int) : String :=
  name ++ ": '" ++ bracket ++ "' at line " ++ decimal line ++ ", column " ++ decimal column ++
    " (offset " ++ decimal offset ++ ")"

namespace CompileError

/-- The wording of the error. -/
def message (error : CompileError) : String :=
  bracketComplaint error.fault.name error.fault.bracket error.line error.column error.offset

/-- Line and column behind a prefix of the source. -/
def location (before : Bytes) : Nat × Nat :=
  before.foldl (fun (line, column) b => if b = newline then (line + 1, 1) else (line, column + 1))
    (1, 1)

/-- The error for the bracket at an offset. -/
def ofOffset (fault : BracketFault) (source : Bytes) (offset : Nat) : CompileError :=
  let (line, column) := location (source.take offset)
  ⟨fault, offset, line, column⟩

end CompileError

/-- An instruction that is complete while what follows it is still to be read. -/
inductive Item where
  /-- An operation. -/
  | op (pos : Nat) (action : Op)
  /-- A loop with its body. -/
  | loop (pos : Nat) (body : Code)

namespace Item

/-- Puts the instruction in front of a sequence. -/
def before (rest : Code) : Item → Code
  | op pos action => .op pos action rest
  | loop pos body => .loop pos body rest

/-- The sequence of instructions given latest first. -/
def sequence (latestFirst : List Item) : Code :=
  latestFirst.foldl before .done

end Item

/-- A loop whose end has not been read yet. -/
structure OpenLoop where
  /-- The offset of its bracket in the source. -/
  offset : Nat
  /-- Its place in the listing. -/
  pos : Nat
  /-- The instructions in front of it in the enclosing sequence, latest first. -/
  outer : List Item

/-- The compiler between two source bytes. -/
structure Assembly where
  /-- The next place in the listing. -/
  pos : Nat
  /-- The number of open loops. -/
  depth : Nat
  /-- The largest number of loops that were open at once. -/
  maxDepth : Nat
  /-- The instructions of the innermost sequence so far, latest first. -/
  items : List Item
  /-- The loops around it, innermost first. -/
  loops : List OpenLoop

namespace Assembly

/-- Nothing read yet. -/
def start : Assembly := ⟨0, 0, 0, [], []⟩

/-- Opens a loop at an offset of the source. -/
def openLoop (assembly : Assembly) (offset : Nat) : Assembly where
  pos := assembly.pos + 1
  depth := assembly.depth + 1
  maxDepth := max assembly.maxDepth (assembly.depth + 1)
  items := []
  loops := ⟨offset, assembly.pos, assembly.items⟩ :: assembly.loops

/-- Closes the innermost loop, if there is one. -/
def closeLoop? (assembly : Assembly) : Option Assembly :=
  match assembly.loops with
  | [] => none
  | innermost :: loops => some
    { assembly with
      pos := assembly.pos + 1
      depth := assembly.depth - 1
      items := .loop innermost.pos (Item.sequence assembly.items) :: innermost.outer
      loops := loops }

/-- Adds an operation to the innermost sequence. -/
def addOp (assembly : Assembly) (action : Op) : Assembly :=
  { assembly with pos := assembly.pos + 1, items := .op assembly.pos action :: assembly.items }

/-- Reads the source bytes from an offset on; fails with the first loop end that has no loop, or
else with the innermost loop that is still open at the end. -/
def read (assembly : Assembly) (offset : Nat) : Bytes → Except (BracketFault × Nat) Assembly
  | [] =>
    match assembly.loops with
    | [] => .ok assembly
    | innermost :: _ => .error (.unclosed, innermost.offset)
  | b :: rest =>
    if b = Opcode.loop.symbol then (assembly.openLoop offset).read (offset + 1) rest
    else if b = loopEnd then
      match assembly.closeLoop? with
      | none => .error (.tooClosed, offset)
      | some closed => closed.read (offset + 1) rest
    else match Op.ofSymbol? b with
    | none => assembly.read (offset + 1) rest
    | some action => (assembly.addOp action).read (offset + 1) rest

/-- The program that has been read. -/
def program (assembly : Assembly) : Program :=
  ⟨Item.sequence assembly.items, assembly.pos, assembly.maxDepth⟩

end Assembly

/-- Compiles a source. Bytes that are no instruction are comments. -/
def compile (source : Bytes) : Except CompileError Program :=
  match Assembly.start.read 0 source with
  | .ok assembly => .ok assembly.program
  | .error (fault, offset) => .error (CompileError.ofOffset fault source offset)

end TapeMachine
