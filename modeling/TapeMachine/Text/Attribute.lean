import TapeMachine.Text.Blank
import TapeMachine.Text.Integer
import TapeMachine.Text.Width

/-! Control sequences in a text for terminals: they take no column, and some of them set attributes
such as bold or a colour, which hold until they are taken back. -/

namespace TapeMachine

/-- The character that starts a control sequence. -/
def escapeChar : Char := '\x1b'

/-- The sequence that takes all attributes back. -/
def attributeReset : List Char := [escapeChar, '[', '0', 'm']

/-- What the second character of a control sequence tells. -/
inductive SequenceKind where
  /-- Nothing so far. -/
  | unknown
  /-- It sets attributes, and the letter m ends it. -/
  | attributes
  /-- It gives an order, and a backslash ends it. -/
  | order
  deriving DecidableEq, Repr

/-- The attributes that are set, and a control sequence that is being read. -/
structure AttributeState where
  /-- The numbers of the attributes that are set, in rising order. -/
  codes : List Int
  /-- The sequence that is being read: what is known of its kind, and its characters, the latest
  first. -/
  pending : Option (SequenceKind × List Char)
  deriving DecidableEq, Repr

namespace AttributeState

/-- No attribute, and no sequence. -/
def plain : AttributeState := ⟨[], none⟩

/-- The attributes that a number takes back. -/
def revoked : Int → List Int
  | 22 => [1, 2]
  | 23 => [3]
  | 24 => [4]
  | 25 => [5, 6]
  | 27 => [7]
  | 29 => [9]
  | _ => []

/-- Adds a number to numbers in rising order. -/
def insertCode (code : Int) : List Int → List Int
  | [] => [code]
  | first :: rest =>
    if code < first then code :: first :: rest
    else if code = first then first :: rest
    else first :: insertCode code rest

/-- The attributes after one more number. -/
def setCode (codes : List Int) (code : Int) : List Int :=
  if code = 0 then []
  else if revoked code = [] then insertCode code codes
  else codes.filter fun known => !(revoked code).contains known

/-- Takes the first occurrence of a piece out of a text. -/
def dropPiece (piece : List Char) : List Char → List Char
  | [] => []
  | c :: rest =>
    if piece.isPrefixOf (c :: rest) then (c :: rest).drop piece.length
    else c :: dropPiece piece rest

/-- The numbers of a complete sequence; what is no number is passed over. -/
def sequenceCodes (kind : SequenceKind) (text : List Char) : List Int :=
  let inside := match kind with
    | .order => dropPiece ['\\'] (dropPiece [escapeChar, ']'] text)
    | _ => dropPiece ['m'] (dropPiece [escapeChar, '['] text)
  (inside.splitOn ';').filterMap fun part =>
    (parseDecimal (trimBlank (utf8 (String.ofList part)))).toOption

/-- What a link starts with. -/
def linkStart : List Char := [escapeChar, ']', '8', ';']

/-- Whether a sequence is complete, given its characters, the latest first. A link ends only with
an escape and a backslash, or with a bell. -/
def isComplete (kind : SequenceKind) (latest : List Char) : Bool :=
  if linkStart.isPrefixOf latest.reverse then
    latest.head? = some '\x07' || ['\\', escapeChar].isPrefixOf latest
  else (kind = .attributes && latest.head? = some 'm') ||
    (kind = .order && latest.head? = some '\\')

/-- What a character tells about the kind of a sequence. -/
def SequenceKind.refine (kind : SequenceKind) (c : Char) : SequenceKind :=
  if kind ≠ .unknown then kind
  else if c = '[' then .attributes
  else if c = ']' then .order
  else .unknown

/-- The state behind a character. -/
def step (state : AttributeState) (c : Char) : AttributeState :=
  let continued : Option (SequenceKind × List Char) := match state.pending with
    | none => if c = escapeChar then some (.unknown, [c]) else none
    | some (kind, latest) => some (SequenceKind.refine kind c, c :: latest)
  match continued with
  | none => state
  | some (kind, latest) =>
    if isComplete kind latest then
      ⟨(sequenceCodes kind latest.reverse).foldl setCode state.codes, none⟩
    else { state with pending := some (kind, latest) }

/-- The state behind a piece of text. No sequence reaches into the piece or out of it. -/
def steps (state : AttributeState) (piece : List Char) : AttributeState :=
  { piece.foldl step { state with pending := none } with pending := none }

/-- A sequence that sets the attributes again; without attributes it is empty. -/
def sequence (state : AttributeState) : List Char :=
  if state.codes = [] then []
  else
    let numbers := state.codes.map fun code => (decimal code).toList
    [escapeChar, '['] ++ (numbers.intersperse [';']).flatten ++ ['m']

end AttributeState

/-- The columns that a text takes without its control sequences. -/
def displayWidth (text : List Char) : Nat :=
  (text.foldl (fun (state, columns) c =>
    let next := AttributeState.step state c
    (next, if state.pending.isSome || next.pending.isSome then columns else columns + charWidth c))
    (AttributeState.plain, 0)).2

end TapeMachine
