import TapeMachine.Text.Attribute

/-! Breaking a text into lines of limited width. Attributes that are set where a line breaks are
taken back at its end and set again on the next line. -/

namespace TapeMachine

/-- The text of characters without stray bytes. -/
def unitsOf (text : List Char) : List Utf8Unit := text.map Utf8Unit.char

/-- The lines so far. -/
structure Wrapped where
  /-- The finished lines, the latest first. -/
  lines : List (List Utf8Unit)
  /-- The present line, its latest unit first. -/
  line : List Utf8Unit
  /-- The columns of the present line that are taken. -/
  column : Nat

namespace Wrapped

/-- Nothing. -/
def empty : Wrapped := ⟨[], [], 0⟩

/-- Puts a text on the present line. -/
def put (wrapped : Wrapped) (text : List Utf8Unit) : Wrapped :=
  { wrapped with line := text.reverse ++ wrapped.line }

/-- Ends the present line. What sets the attributes is taken back in front of the break and comes
again behind it. -/
def endLine (wrapped : Wrapped) (attributes : List Char) : Wrapped :=
  let ended := if attributes = [] then wrapped else wrapped.put (unitsOf attributeReset)
  { lines := ended.line :: ended.lines, line := (unitsOf attributes).reverse, column := 0 }

/-- Puts a character on the present line, or on a new one if there is no room for it. -/
def putChar (limit : Nat) (wrapped : Wrapped) (inSequence : Bool) (attributes : List Char)
    (c : Char) : Wrapped :=
  let columns := if inSequence then 0 else charWidth c
  let placed :=
    if !inSequence && limit < wrapped.column + columns then wrapped.endLine attributes else wrapped
  { placed.put [.char c] with column := placed.column + columns }

/-- Puts a word on the present line as far as there is room, and the rest on new lines. In the word
a sequence is anything from an escape to the letter m, and the latest one sets the attributes. -/
def putCut (limit : Nat) (inSequence : Bool) (attributes : List Char) :
    List Utf8Unit → Wrapped → Wrapped
  | [], wrapped => wrapped
  | unit :: rest, wrapped =>
    let c := unit.shown
    let started := inSequence || c = escapeChar
    let latest :=
      if c = escapeChar then [c] else if started then attributes ++ [c] else attributes
    putCut limit (started && c ≠ 'm') (if latest = attributeReset then [] else latest) rest
      (wrapped.putChar limit started latest c)

/-- Puts a word behind the words before it. -/
def putWord (limit : Nat) (wrapped : Wrapped) (attributes : List Char) (word : List Utf8Unit) :
    Wrapped :=
  let spaced :=
    if wrapped.column = 0 then wrapped
    else { wrapped.put [.char ' '] with column := wrapped.column + 1 }
  let columns := displayWidth (word.map Utf8Unit.shown)
  if spaced.column + columns ≤ limit then
    { spaced.put word with column := spaced.column + columns }
  else putCut limit false attributes word spaced

/-- Puts words on lines, a space between two of them; a full line ends in front of the next word. -/
def putWords (limit : Nat) (state : AttributeState) (attributes : List Char) :
    List (List Utf8Unit) → Wrapped → Wrapped
  | [], wrapped =>
    if attributes = [] || (unitsOf attributeReset).reverse.isPrefixOf wrapped.line then wrapped
    else wrapped.put (unitsOf attributeReset)
  | word :: rest, wrapped =>
    let after := state.steps (word.map Utf8Unit.shown)
    let latest := if after.sequence = [] then attributes else after.sequence
    let placed := wrapped.putWord limit latest word
    let full := placed.column = limit && rest ≠ []
    putWords limit after latest rest (if full then placed.endLine latest else placed)

/-- The lines from first to last. -/
def all (wrapped : Wrapped) : List (List Utf8Unit) :=
  (wrapped.line :: wrapped.lines).reverse.map List.reverse

end Wrapped

/-- The words of a line: what stands between white space. -/
def wordsOf (line : List Utf8Unit) : List (List Utf8Unit) :=
  (line.splitOnP Utf8Unit.isBlank).filter (· ≠ [])

/-- Four spaces stand for a tab. -/
def expandTabs (text : List Utf8Unit) : List Utf8Unit :=
  text.flatMap fun unit =>
    if unit = .char '\t' then List.replicate 4 (.char ' ') else [unit]

/-- Breaks a text into lines of a limited width. A text that is not too wide as a whole keeps its
lines; else the lines are set anew word by word, and a word without room is cut. -/
def wrapText (limit : Nat) (text : List Utf8Unit) : List (List Utf8Unit) :=
  let expanded := expandTabs text
  let given := expanded.splitOn (.char '\n')
  if displayWidth (expanded.map Utf8Unit.shown) ≤ limit then given
  else given.flatMap fun line =>
    (Wrapped.putWords limit .plain [] (wordsOf line) .empty).all

end TapeMachine
