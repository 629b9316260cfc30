import TapeMachine.Text.Calendar
import TapeMachine.Text.Integer
import TapeMachine.Toml.Draft

/-! Reading a TOML document. -/

namespace TapeMachine.Toml

/-- The reader of a document between two characters. -/
structure Cursor where
  /-- The characters that are left. -/
  rest : List Char
  /-- The number of the present line. -/
  line : Nat
  /-- What has been read. -/
  draft : Draft

/-- Reading a document. -/
abbrev Read (α : Type) := StateT Cursor (Except Error) α

namespace Read

/-- Complains about the present line. -/
def fail {α : Type} (problem : String) : Read α := do
  throw (.malformed (← get).line problem)

/-- The next character. -/
def peek : Read (Option Char) := return (← get).rest.head?

/-- Steps over the next character. -/
def skip : Read Unit :=
  modify fun cursor => { cursor with
    rest := cursor.rest.tail
    line := if cursor.rest.head? = some '\n' then cursor.line + 1 else cursor.line }

/-- Steps over characters while they fit, and returns them. -/
def takeWhile (fits : Char → Bool) : Read (List Char) := do
  let cursor ← get
  let taken := cursor.rest.takeWhile fits
  set { cursor with
    rest := cursor.rest.drop taken.length
    line := cursor.line + taken.count '\n' }
  return taken

/-- Steps over a text if it is next. -/
def accept (text : String) : Read Bool := do
  let cursor ← get
  if text.toList.isPrefixOf cursor.rest then
    set { cursor with rest := cursor.rest.drop text.length }
    return true
  else return false

/-- Changes what has been read. -/
def change (update : Draft → Except String Draft) : Read Unit := do
  match update (← get).draft with
  | .ok draft => modify fun cursor => { cursor with draft }
  | .error problem => fail problem

/-- Whether a character is a space or a tab. -/
def isBlank (c : Char) : Bool := c = ' ' || c = '\t'

/-- Whether a character ends a line. -/
def isBreak (c : Char) : Bool := c = '\n' || c = '\r'

/-- Steps over white space on a line. -/
def skipBlanks : Read Unit := do
  let _ ← takeWhile isBlank

/-- Steps over a comment. -/
def skipComment : Read Unit := do
  if (← peek) = some '#' then
    let _ ← takeWhile fun c => !isBreak c

/-- Steps over white space, line breaks and comments. -/
def skipSpace : Read Unit := do
  for _ in (← get).rest do
    let _ ← takeWhile fun c => isBlank c || isBreak c
    if (← peek) = some '#' then skipComment else break

/-- The escapes that stand for one character. -/
def simpleEscapes : List (Char × Char) :=
  [('b', '\x08'), ('t', '\t'), ('n', '\n'), ('f', '\x0c'), ('r', '\r'), ('e', '\x1b'),
   ('"', '"'), ('\\', '\\')]

/-- The number of digits of the escapes that give the number of a character. -/
def numberedEscapes : List (Char × Nat) := [('x', 2), ('u', 4), ('U', 8)]

/-- Reads an escape behind its backslash. -/
def escape : Read Char := do
  let some c ← peek | fail "unexpected EOF; expected '\"'"
  skip
  match simpleEscapes.find? (·.1 = c), numberedEscapes.find? (·.1 = c) with
  | some (_, value), _ => return value
  | none, some (_, width) =>
    let digits := (← get).rest.take width
    let values := digits.map fun digit =>
      (digitValue? digit.toUInt8).filter fun value => digit.toNat < 0x80 && value < 16
    let some known := values.mapM id | fail "expected hexadecimal digits after an escape"
    if known.length < width then fail "expected hexadecimal digits after an escape"
    let value := known.foldl (fun value digit => value * 16 + digit) 0
    if (0xd800 ≤ value && value ≤ 0xdfff) || 0x10ffff < value then
      fail "Escaped character is not valid UTF-8."
    for _ in digits do skip
    return Char.ofNat value
  | none, none => fail ("invalid escape character " ++ "'\\" ++ c.toString ++ "'")

/-- Reads a string between double quotes, behind the first of them. -/
def basicString : Read String := do
  let mut text := #[]
  for _ in (← get).rest do
    match ← peek with
    | none => fail "unexpected EOF; expected '\"'"
    | some '"' =>
      skip
      return String.ofList text.toList
    | some '\\' =>
      skip
      text := text.push (← escape)
    | some c =>
      if isBreak c then fail "strings cannot contain newlines"
      skip
      text := text.push c
  fail "unexpected EOF; expected '\"'"

/-- Reads a string between single quotes, behind the first of them. -/
def literalString : Read String := do
  let text ← takeWhile fun c => c ≠ '\'' && !isBreak c
  if (← peek) ≠ some '\'' then fail "strings cannot contain newlines"
  skip
  return String.ofList text

/-- Steps over the line break at the start of a string of several lines. -/
def skipFirstBreak : Read Unit := do
  unless ← accept "\n" do
    let _ ← accept "\r\n"

/-- Reads quotes in a string of several lines: three end it, and one or two in front of these are
part of it, or even three behind a backslash. Returns the quotes that are part of it, and whether
they end it. -/
def closingQuotes (quote : Char) (afterBackslash : Bool) : Read (Nat × Bool) := do
  let quotes ← takeWhile (· = quote)
  if quotes.length < 3 then return (quotes.length, false)
  else if (if afterBackslash then 6 else 5) < quotes.length then fail "unexpected quotes"
  else return (quotes.length - 3, true)

/-- Steps over the white space behind a backslash, if there is a line break in it. -/
def skipEscapedBreak : Read Bool := do
  let cursor ← get
  let space := cursor.rest.takeWhile fun c => isBlank c || isBreak c
  if space.contains '\n' then
    let _ ← takeWhile fun c => isBlank c || isBreak c
    return true
  else return false

/-- Reads a string of several lines, behind its first quotes. -/
def multilineString (escapes : Bool) (quote : Char) : Read String := do
  skipFirstBreak
  let mut text := #[]
  let mut afterBackslash := false
  for _ in (← get).rest do
    match ← peek with
    | none => fail "unexpected EOF; expected three quotes"
    | some c =>
      if c = quote then
        let (quotes, ends) ← closingQuotes quote afterBackslash
        text := text ++ (List.replicate quotes quote).toArray
        afterBackslash := false
        if ends then return String.ofList text.toList
      else if escapes && c = '\\' then
        skip
        afterBackslash := (← peek) = some '\\'
        unless ← skipEscapedBreak do text := text.push (← escape)
      else
        skip
        afterBackslash := false
        text := text.push c
  fail "unexpected EOF; expected three quotes"

/-- Reads one part of a key. -/
def keyPart : Read String := do
  skipBlanks
  let part ← match ← peek with
    | some '"' => do
      skip
      basicString
    | some '\'' => do
      skip
      literalString
    | _ => do
      let bare ← takeWhile isBareChar
      if bare = [] then fail "keys cannot be empty"
      pure (String.ofList bare)
  skipBlanks
  return part

/-- Reads a dotted key: its last part, and the parts before it. -/
def key : Read (Key × String) := do
  let mut above := []
  let mut last ← keyPart
  for _ in (← get).rest do
    if ← accept "." then
      above := above ++ [last]
      last ← keyPart
    else break
  return (above, last)

/-- Whether underscores stand between digits only, and the last character is a digit. -/
def underscoresOk (text : List Char) : Bool :=
  let (fits, afterDigit) := text.foldl (fun (fits, afterDigit) c =>
    (fits && (c ≠ '_' || afterDigit),
      ((digitValue? c.toUInt8).filter (· < 16)).isSome)) (true, false)
  fits && afterDigit

/-- Whether a number has a zero in front that it does not need. -/
def hasLeadingZero : List Char → Bool
  | '0' :: c :: _ => !(['b', 'o', 'x'].contains c)
  | sign :: '0' :: _ :: _ => sign = '+' || sign = '-'
  | _ => false

/-- The value of the text of an integer. -/
def integer (text : List Char) : Read Value := do
  if !underscoresOk text then fail "underscores must be surrounded by digits"
  if hasLeadingZero text then fail "cannot have leading zeroes"
  match parseBased (utf8 (String.ofList text)) with
  | .ok value => return .integer value
  | .error _ => fail "integer is out of range"

/-- Whether every point is followed by a digit. -/
def pointsOk : List Char → Bool
  | '.' :: c :: rest => c.isDigit && pointsOk (c :: rest)
  | ['.'] => false
  | _ :: rest => pointsOk rest
  | [] => true

/-- The value of the text of a number with a point or an exponent. -/
def real (text : List Char) : Read Value := do
  let parts := (text.splitOnP fun c => c = '.' || c = 'e' || c = 'E').filter (· ≠ [])
  if !parts.all underscoresOk then fail "underscores must be surrounded by digits"
  if hasLeadingZero (parts.headD []) then fail "cannot have leading zeroes"
  if !pointsOk text then fail "'.' must be followed by one or more digits"
  match Decimal.parse? (text.filter (· ≠ '_')) with
  | some number => if number.isHeld then return .real else fail "float is out of range"
  | none => fail "invalid float value"

/-- Days and times are written with all digits, and times may lack the seconds. -/
def timeStyle : TimeStyle := ⟨2, true⟩

/-- The value of the text of a day, a time or both. -/
def time (text : List Char) : Read Value := do
  let plain := text.map fun c =>
    if c = 'z' then 'Z' else if c = 't' || c = ' ' then 'T' else c
  let fits := match timeStyle.day? plain with
    | some [] => true
    | some (mark :: rest) =>
      mark = 'T' && match timeStyle.timeOfDay? rest with
        | some zone => zone = [] || TimeStyle.isZone zone
        | none => false
    | none => timeStyle.timeOfDay? plain = some []
  if fits then return .time else fail "invalid datetime"

/-- Whether a character may stand in a number with a point or an exponent. -/
def isRealChar (c : Char) : Bool := c.isDigit || ['_', '.', '-', '+', 'e', 'E'].contains c

/-- Whether a character may stand in a day or a time. -/
def isTimeChar (c : Char) : Bool :=
  c.isDigit || ['-', ':', 'T', 't', ' ', '.', 'Z', 'z', '+'].contains c

/-- Whether the next character starts a fraction or an exponent. -/
def atFraction : Read Bool := do
  return [some '.', some 'e', some 'E'].contains (← peek)

/-- Reads a decimal number of which a part is known. -/
def decimalNumber (known : List Char) : Read Value := do
  let digits ← takeWhile fun c => c.isDigit || c = '_'
  if ← atFraction then
    let more ← takeWhile isRealChar
    real (known ++ digits ++ more)
  else integer (known ++ digits)

/-- Reads a number in another base than ten, behind the mark of its base. -/
def basedNumber (mark : Char) (base : Nat) : Read Value := do
  let isDigitOf (c : Char) : Bool :=
    c.toNat < 0x80 && ((digitValue? c.toUInt8).filter (· < base)).isSome
  if !((← peek).map isDigitOf).getD false then fail "not a number in this base"
  let digits ← takeWhile fun c => isDigitOf c || c = '_'
  integer ('0' :: mark :: digits)

/-- Reads a number or a time that starts with a digit. -/
def numberOrTime : Read Value := do
  if ← accept "0b" then basedNumber 'b' 2
  else if ← accept "0o" then basedNumber 'o' 8
  else if ← accept "0x" then basedNumber 'x' 16
  else
    let digits ← takeWhile Char.isDigit
    if [some '-', some ':'].contains (← peek) && digits.length > 1 then
      let more ← takeWhile isTimeChar
      time ((digits ++ more).reverse.dropWhile (· = ' ')).reverse
    else decimalNumber digits

/-- Reads a number behind its sign. -/
def signedNumber (sign : Char) : Read Value := do
  if ← accept "inf" then return .real
  if ← accept "nan" then return .real
  if !((← peek).map Char.isDigit).getD false then fail "expected a digit"
  decimalNumber [sign]

/-- Reads a value that is neither an array nor a table. -/
def simpleValue : Read Value := do
  if ← accept "\"\"\"" then return .text (← multilineString true '"')
  if ← accept "'''" then return .text (← multilineString false '\'')
  if ← accept "\"" then return .text (← basicString)
  if ← accept "'" then return .text (← literalString)
  if ← accept "true" then return .truth true
  if ← accept "false" then return .truth false
  if ← accept "inf" then return .real
  if ← accept "nan" then return .real
  if ← accept "+" then return ← signedNumber '+'
  if ← accept "-" then return ← signedNumber '-'
  if ((← peek).map Char.isDigit).getD false then numberOrTime
  else fail "expected value"

mutual

/-- Reads the value of a key, or an item of its array. -/
def value (path : Key) (name : String) : Nat → Bool → Read Value
  | 0, _ => fail "values are nested too deeply"
  | fuel + 1, inArray => do
    skipBlanks
    if ← accept "[" then
      change fun draft => .ok (draft.noteArray (path ++ [name]))
      items path name fuel
      return .array
    else if ← accept "\x7b" then
      let inner := path ++ [name]
      change fun draft =>
        let implied := draft.imply inner
        if inArray then implied.openArrayTable path name else implied.openTable path name
      members inner fuel
      return .table []
    else simpleValue

/-- Reads the items of an array. -/
def items (path : Key) (name : String) : Nat → Read Unit
  | 0 => fail "values are nested too deeply"
  | fuel + 1 => do
    skipSpace
    unless ← accept "]" do
      let _ ← value path name fuel true
      skipSpace
      if ← accept "," then items path name fuel
      else unless ← accept "]" do fail "expected a comma (',') or array terminator (']')"

/-- Reads the members of an inline table. -/
def members (path : Key) : Nat → Read Unit
  | 0 => fail "values are nested too deeply"
  | fuel + 1 => do
    skipSpace
    unless ← accept "\x7d" do
      assignment path fuel
      skipSpace
      if ← accept "," then members path fuel
      else unless ← accept "\x7d" do
        fail "expected a comma or an inline table terminator '\x7d'"

/-- Reads a key and its value. -/
def assignment (path : Key) : Nat → Read Unit
  | 0 => fail "values are nested too deeply"
  | fuel + 1 => do
    let (above, name) ← key
    unless ← accept "=" do fail "expected '.' or '='"
    let inner := path ++ above
    change fun draft => draft.openImplied path above
    change fun draft => .ok (draft.note (inner ++ [name]))
    let found ← value inner name fuel false
    change fun draft => draft.assign inner name found

end

/-- Reads a header: the key of a table, and whether it is one of an array of tables. -/
def header : Read Unit := do
  let isArray ← accept "["
  let (above, name) ← key
  unless ← accept "]" do fail "expected '.' or ']' to end table name"
  if isArray then
    unless ← accept "]" do fail "expected end of table array name delimiter ']'"
    change fun draft => draft.openArrayTable above name
  else change fun draft => draft.openTable above name
  change fun draft => .ok (draft.note (above ++ [name]))

/-- Steps over the end of a line. -/
def lineEnd : Read Unit := do
  skipBlanks
  skipComment
  match ← peek with
  | none => return ()
  | some c =>
    if !isBreak c then
      fail "expected a top-level item to end with a newline, comment, or EOF"

/-- Reads the lines of a document. -/
def document (fuel : Nat) : Read Unit := do
  let mut path := []
  for _ in List.range fuel do
    skipSpace
    match ← peek with
    | none => return ()
    | some '[' =>
      skip
      header
      path := ((← get).draft.keys.headD [])
    | some _ => assignment path fuel
    lineEnd

end Read

/-- Whether a character may stand in a document; a carriage return only stands before a line
feed. -/
def isTextChar (c : Char) : Bool :=
  c = '\t' || c = '\n' || c = '\r' || !(c.toNat < 0x20 || c.toNat = 0x7f)

/-- Whether every carriage return stands before a line feed. -/
def returnsOk : List Char → Bool
  | [] => true
  | '\r' :: '\n' :: rest => returnsOk rest
  | c :: rest => c ≠ '\r' && returnsOk rest

/-- A document: its entries, and its keys in the order in which they were written. -/
structure Document where
  /-- The entries of the top table. -/
  entries : Entries
  /-- The keys that were written. -/
  keys : List Key

/-- A text without the mark of the byte order in front of it, whatever the order. -/
def dropByteOrder (text : Bytes) : Bytes :=
  match [[0xff, 0xfe], [0xfe, 0xff], [0xef, 0xbb, 0xbf]].find? (List.isPrefixOf · text) with
  | some mark => text.drop mark.length
  | none => text

/-- Reads a document. -/
def Document.ofText (text : List Char) : Except Error Document := do
  if !text.all isTextChar || !returnsOk text then
    throw (.malformed 1 "files cannot contain control characters")
  let (_, cursor) ← (Read.document (text.length + 1)).run ⟨text, 1, .empty⟩
  return ⟨cursor.draft.entries, cursor.draft.keys.reverse⟩

end TapeMachine.Toml
