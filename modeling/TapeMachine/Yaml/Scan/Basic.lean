import TapeMachine.Yaml.Source

/-! Scanning a YAML text: where the scanner stands, and the steps that every token is made of. -/

namespace TapeMachine.Yaml

/-- A place where a simple key may have started. -/
structure SimpleKey where
  /-- Whether it can still turn out to be a key. -/
  possible : Bool
  /-- Whether a key must have started here. -/
  required : Bool
  /-- The number of tokens before the key. -/
  token : Nat
  /-- Where the key started. -/
  mark : Mark
  deriving Repr

/-- Whether a place can no longer be the start of a key: a key has 1024 characters at most, and they
are on one line. -/
def SimpleKey.isStale (key : SimpleKey) (mark : Mark) : Bool :=
  key.mark.line < mark.line || key.mark.index + 1024 < mark.index

/-- The scanner between two tokens. Of the text it holds the characters from `first` to `behind`;
when it looks further, it fetches pages and lets go of what it has passed. -/
structure Scanner where
  /-- The characters that have been fetched. -/
  chars : Array Char
  /-- The pages that have not been fetched. -/
  source : Source
  /-- The number of characters of the whole text. -/
  size : Nat
  /-- The first character at hand. -/
  first : Nat
  /-- The place behind the last character at hand; behind the end of the text there are NULs. -/
  behind : Nat
  /-- Where it stands. -/
  mark : Mark
  /-- Whether there was a line break and since then only white space. -/
  freshLine : Bool
  /-- The tokens so far. -/
  tokens : Array Token
  /-- The number of tokens that have been handed out. -/
  released : Nat
  /-- The tokens that are held back because they may turn out to be keys. -/
  held : List Nat
  /-- The column of the innermost block collection, or -1. -/
  indent : Int
  /-- The columns of the collections around it. -/
  indents : List Int
  /-- The number of open flow collections. -/
  flowLevel : Nat
  /-- Whether a simple key may start here. -/
  keyAllowed : Bool
  /-- The latest place for a simple key of each flow level, innermost first. -/
  keys : List SimpleKey

/-- Scanning. -/
abbrev Scan (α : Type) := ExceptT Error (StateM Scanner) α

namespace Scan

/-- Fetches the next page, or a NUL behind the last one; tells whether there was a page. -/
def fetchPage : Scan Bool := do
  let scanner ← get
  match scanner.source.pages, scanner.source.fault? with
  | page :: rest, _ =>
    set { scanner with
      chars := scanner.chars ++ page.toArray
      source := { scanner.source with pages := rest }
      behind := scanner.behind + page.length }
    return true
  | [], some fault => throw fault
  | [], none =>
    set { scanner with behind := scanner.behind + 1 }
    return false

/-- Makes sure that so many characters are at hand from the present place on. -/
def fetch (count : Nat) : Scan Unit := do
  let scanner ← get
  if scanner.behind < scanner.mark.index + count then
    set { scanner with first := scanner.mark.index }
    for _ in [0:scanner.source.pages.length + 1] do
      let scanner ← get
      if scanner.mark.index + count ≤ scanner.behind then break
      unless ← fetchPage do break

/-- The character so many places ahead; behind the end it is NUL. -/
def peek (ahead : Nat) : Scan Char := do
  fetch (ahead + 1)
  let scanner ← get
  return scanner.chars.getD (scanner.mark.index + ahead) '\x00'

/-- Complains about the present place. -/
def complain {α : Type} (context : Option Mark) (problem : String) : Scan α := do
  throw (.malformed (complaintLine context (← get).mark 1) problem)

/-- Whether a character ends a line. -/
def isBreak (c : Char) : Bool :=
  c = '\r' || c = '\n' || c = '\u0085' || c = '\u2028' || c = '\u2029'

/-- Whether a character ends a line or the text. -/
def isBreakOrEnd (c : Char) : Bool := isBreak c || c = '\x00'

/-- Whether a character is a space or a tab. -/
def isSpaceOrTab (c : Char) : Bool := c = ' ' || c = '\t'

/-- Whether a character is white space or ends the text. -/
def isBlankOrEnd (c : Char) : Bool := isSpaceOrTab c || isBreakOrEnd c

/-- Whether a character may stand in the name of an anchor. -/
def isNameChar (c : Char) : Bool :=
  (c.isAlphanum && c.toNat < 0x80) || c = '_' || c = '-'

/-- The value of a hexadecimal digit. -/
def hexValue? (c : Char) : Option Nat :=
  if c.isDigit then some (c.toNat - 0x30)
  else if 'a' ≤ c ∧ c ≤ 'f' then some (c.toNat - 0x61 + 10)
  else if 'A' ≤ c ∧ c ≤ 'F' then some (c.toNat - 0x41 + 10)
  else none

/-- Steps over one character. -/
def skip : Scan Unit := do
  let c ← peek 0
  modify fun scanner => { scanner with
    freshLine := scanner.freshLine && isSpaceOrTab c
    mark := { scanner.mark with
      index := scanner.mark.index + 1, column := scanner.mark.column + 1 } }

/-- Steps over one character and returns it. -/
def read : Scan Char := do
  let c ← peek 0
  skip
  return c

/-- Steps over a line break and returns what it stands for. -/
def readBreak : Scan (List Char) := do
  let c ← peek 0
  let next ← peek 1
  let width := if c = '\r' && next = '\n' then 2 else 1
  modify fun scanner => { scanner with
    freshLine := true
    mark := ⟨scanner.mark.index + width, scanner.mark.line + 1, 0⟩ }
  return [if c = '\u2028' || c = '\u2029' then c else '\n']

/-- As many steps as a loop over the rest of the text can need. -/
def fuel : Scan Nat := do
  let scanner ← get
  return scanner.size + 2 - scanner.mark.index

/-- Steps over characters while they fit, and returns them. -/
def readWhile (fits : Char → Bool) : Scan String := do
  let mut text := #[]
  for _ in [0:← fuel] do
    let c ← peek 0
    if c = '\x00' || !fits c then break
    text := text.push (← read)
  return String.ofList text.toList

/-- Steps over the white space on a line. -/
def skipBlanks : Scan Unit := do
  let _ ← readWhile isSpaceOrTab

/-- Steps over a comment, up to the end of the line. -/
def skipComment : Scan Unit := do
  if (← peek 0) = '#' then
    let _ ← readWhile fun c => !isBreakOrEnd c

/-- How far the scanner looks ahead for a comment. -/
def commentReach : Nat := 512

/-- The distance to a comment ahead, if nothing but fitting characters stands before it. -/
def commentAhead? (start : Nat) (fits : Char → Bool) : Scan (Option Nat) := do
  for ahead in [start:commentReach] do
    let c ← peek ahead
    if c = '#' then return some ahead
    if !fits c then return none
  return none

/-- Steps over a number of characters with line breaks among them. -/
def skipLines (count : Nat) : Scan Unit := do
  let goal := (← get).mark.index + count
  for _ in [0:count] do
    if goal ≤ (← get).mark.index then break
    if isBreak (← peek 0) then
      let _ ← readBreak
    else skip

/-- Steps over a comment and over the comments on the next lines, up to the end of the last. Tabs
may stand in front of those. -/
def skipComments : Scan Unit := do
  for _ in [0:← fuel] do
    skipComment
    let c ← peek 0
    if c ≠ '\n' && c ≠ '\r' then break
    match ← commentAhead? 1 fun c => isSpaceOrTab c || c = '\n' || c = '\r' with
    | some ahead => skipLines ahead
    | none => break

/-- Steps over a comment behind a token on the same line. -/
def skipLineComment : Scan Unit := do
  if !(← get).freshLine then
    if (← commentAhead? 0 isSpaceOrTab).isSome then
      let _ ← readWhile fun c => !isBreakOrEnd c

/-- Adds a token. -/
def emit (start : Mark) (kind : TokenKind) : Scan Unit :=
  modify fun scanner => { scanner with tokens := scanner.tokens.push ⟨kind, start⟩ }

/-- Adds a token in front of an earlier one, if that one has not been handed out yet. -/
def insert (place : Nat) (start : Mark) (kind : TokenKind) : Scan Unit :=
  modify fun scanner =>
    let place := if place < scanner.released then scanner.tokens.size else place
    { scanner with tokens := scanner.tokens.insertIdxIfInBounds place ⟨kind, start⟩ }

/-- Gives up the possible simple key of this flow level. -/
def dropKey : Scan Unit :=
  modify fun scanner =>
    match scanner.keys with
    | key :: rest => { scanner with
        keys := { key with possible := false } :: rest
        held := scanner.held.erase key.token }
    | [] => scanner

/-- Forgets the possible simple key of this flow level, unless a key is required. -/
def removeKey : Scan Unit := do
  if let key :: _ := (← get).keys then
    if key.possible then
      if key.required then complain (some key.mark) "could not find expected ':'"
      dropKey

/-- Notes that a simple key may start here. -/
def saveKey : Scan Unit := do
  if (← get).keyAllowed then
    removeKey
    modify fun scanner =>
      let required := scanner.flowLevel = 0 && scanner.indent = scanner.mark.column
      let key : SimpleKey := ⟨true, required, scanner.tokens.size, scanner.mark⟩
      { scanner with keys := key :: scanner.keys.tail, held := key.token :: scanner.held }

/-- Forgets the possible simple keys that have become too long or cover a line break. -/
def dropStaleKeys : Scan Unit := do
  let mark := (← get).mark
  for key in (← get).keys do
    if key.possible && key.required && key.isStale mark then
      complain (some key.mark) "could not find expected ':'"
  modify fun scanner => { scanner with
    keys := scanner.keys.map fun key =>
      { key with possible := key.possible && !key.isStale mark } }

/-- Collections inside collections go no deeper than this. -/
def maxDepth : Nat := 10000

/-- Opens a block collection at a column if it is deeper than the innermost one. -/
def openBlock (column : Nat) (place? : Option Nat) (start : Mark) (kind : TokenKind) :
    Scan Unit := do
  let scanner ← get
  if scanner.flowLevel = 0 && scanner.indent < column then
    if maxDepth ≤ scanner.indents.length then complain (some start) "exceeded max depth of 10000"
    set { scanner with indents := scanner.indent :: scanner.indents, indent := column }
    insert (place?.getD scanner.tokens.size) start kind

/-- Closes the block collections that are deeper than a column. -/
def closeBlocks (column : Int) : Scan Unit := do
  if (← get).flowLevel = 0 then
    for _ in (← get).indents do
      let scanner ← get
      if scanner.indent > column then
        set { scanner with
          indent := scanner.indents.headD (-1)
          indents := scanner.indents.tail
          tokens := scanner.tokens.push ⟨.blockEnd, scanner.mark⟩ }

/-- Whether the first character at hand is a mark of the byte order. Then every line counts as
starting with one. -/
def atByteOrder : Scan Bool := do
  fetch 1
  let scanner ← get
  return scanner.mark.column = 0 && scanner.chars.getD scanner.first '\x00' = '\ufeff'

/-- Steps over white space, comments and line breaks to the next token. -/
def toNextToken : Scan Unit := do
  for _ in [0:← fuel] do
    if ← atByteOrder then skip
    for _ in [0:← fuel] do
      let scanner ← get
      let c ← peek 0
      if c = ' ' || ((scanner.flowLevel > 0 || !scanner.keyAllowed) && c = '\t') then skip
      else break
    if (← peek 0) = '#' then skipComments
    if isBreak (← peek 0) then
      let _ ← readBreak
      modify fun scanner =>
        { scanner with keyAllowed := scanner.keyAllowed || scanner.flowLevel = 0 }
    else break

/-- Whether three equal characters and white space start the present line. -/
def atDocumentMark (c : Char) : Scan Bool := do
  return (← get).mark.column = 0 && (← peek 0) = c && (← peek 1) = c && (← peek 2) = c &&
    isBlankOrEnd (← peek 3)

/-- Whether a document starts or ends here. -/
def atDocumentEdge : Scan Bool := do
  return (← atDocumentMark '-') || (← atDocumentMark '.')

end Scan

end TapeMachine.Yaml
