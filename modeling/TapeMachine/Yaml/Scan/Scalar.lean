import TapeMachine.Yaml.Scan.Basic

/-! The scalars of a YAML text: plain ones, quoted ones and blocks. -/

namespace TapeMachine.Yaml.Scan

/-- What stands between two pieces of folded text: white space, or a line break and more breaks. -/
structure Gap where
  /-- White space on one line. -/
  blanks : List Char
  /-- The first line break. -/
  first : List Char
  /-- The line breaks after it. -/
  more : List Char
  /-- Whether there was a line break. -/
  broken : Bool

/-- No gap. -/
def Gap.none : Gap := ⟨[], [], [], false⟩

/-- What a gap leaves in the text: a single line break becomes a space. -/
def Gap.text (gap : Gap) : List Char :=
  if gap.broken then
    if gap.first = ['\n'] then if gap.more = [] then [' '] else gap.more
    else gap.first ++ gap.more
  else gap.blanks

/-- Scans a plain scalar. -/
def plainScalar : Scan Unit := do
  saveKey
  modify fun scanner => { scanner with keyAllowed := false }
  let start := (← get).mark
  let indent := (← get).indent + 1
  let mut text : Array Char := #[]
  let mut gap := Gap.none
  for _ in [0:← fuel] do
    if ← atDocumentEdge then break
    if (← peek 0) = '#' then break
    for _ in [0:← fuel] do
      let c ← peek 0
      if isBlankOrEnd c then break
      if c = ':' && isBlankOrEnd (← peek 1) then break
      if (← get).flowLevel > 0 && ",?[]\x7b\x7d".toList.contains c then break
      text := text ++ gap.text.toArray
      gap := Gap.none
      text := text.push (← read)
    let c ← peek 0
    if !(isSpaceOrTab c || isBreak c) then break
    for _ in [0:← fuel] do
      let c ← peek 0
      if isSpaceOrTab c then
        if gap.broken && (← get).mark.column < indent && c = '\t' then
          complain (some start) "found a tab character that violates indentation"
        skip
        if !gap.broken then gap := { gap with blanks := gap.blanks ++ [c] }
      else if isBreak c then
        let broken ← readBreak
        gap := if gap.broken then { gap with more := gap.more ++ broken }
          else ⟨[], broken, [], true⟩
      else break
    let scanner ← get
    if scanner.flowLevel = 0 && scanner.mark.column < indent then break
  if gap.broken then modify fun scanner => { scanner with keyAllowed := true }
  emit start (.scalar (String.ofList text.toList) .plain)

/-- The escapes of double-quoted scalars that stand for one character. -/
def simpleEscapes : List (Char × Char) :=
  [('0', '\x00'), ('a', '\x07'), ('b', '\x08'), ('t', '\t'), ('\t', '\t'), ('n', '\n'),
   ('v', '\x0b'), ('f', '\x0c'), ('r', '\r'), ('e', '\x1b'), (' ', ' '), ('"', '"'),
   ('\'', '\''), ('\\', '\\'), ('N', '\u0085'), ('_', '\u00a0'), ('L', '\u2028'),
   ('P', '\u2029')]

/-- Reads an escape of a double-quoted scalar behind its backslash. -/
def escape (start : Mark) : Scan Char := do
  let c ← read
  match simpleEscapes.find? fun (letter, _) => letter = c with
  | some (_, value) => return value
  | none =>
    let width ← match c with
      | 'x' => pure 2
      | 'u' => pure 4
      | 'U' => pure 8
      | _ => complain (some start) "found unknown escape character"
    let mut value := 0
    for _ in List.range width do
      match hexValue? (← peek 0) with
      | some digit =>
        value := value * 16 + digit
        skip
      | none => complain (some start) "did not find expected hexdecimal number"
    if (0xd800 ≤ value && value ≤ 0xdfff) || value > 0x10ffff then
      complain (some start) "found invalid Unicode character escape code"
    return Char.ofNat value

/-- Scans a quoted scalar. -/
def quotedScalar (single : Bool) : Scan Unit := do
  saveKey
  modify fun scanner => { scanner with keyAllowed := false }
  let start := (← get).mark
  let quote := if single then '\'' else '"'
  skip
  let mut text : Array Char := #[]
  for _ in [0:← fuel] do
    if ← atDocumentEdge then complain (some start) "found unexpected document indicator"
    if (← peek 0) = '\x00' then complain (some start) "found unexpected end of stream"
    let mut joined := false
    for _ in [0:← fuel] do
      let c ← peek 0
      if isBlankOrEnd c then break
      if single && c = '\'' && (← peek 1) = '\'' then
        text := text.push '\''
        skip
        skip
      else if c = quote then break
      else if !single && c = '\\' && isBreak (← peek 1) then
        skip
        let _ ← readBreak
        joined := true
        break
      else if !single && c = '\\' then
        skip
        text := text.push (← escape start)
      else text := text.push (← read)
    if (← peek 0) = quote then break
    let mut gap := if joined then { Gap.none with broken := true } else Gap.none
    for _ in [0:← fuel] do
      let c ← peek 0
      if isSpaceOrTab c then
        skip
        if !gap.broken then gap := { gap with blanks := gap.blanks ++ [c] }
      else if isBreak c then
        let broken ← readBreak
        gap := if gap.broken then { gap with more := gap.more ++ broken }
          else ⟨[], broken, [], true⟩
      else break
    text := text ++ gap.text.toArray
  skip
  emit start (.scalar (String.ofList text.toList) (if single then .singleQuoted else .doubleQuoted))

/-- What happens to the line breaks at the end of a block scalar. -/
inductive Chomping where
  /-- None is kept. -/
  | strip
  /-- One is kept. -/
  | clip
  /-- All are kept. -/
  | keep
  deriving DecidableEq

/-- Steps over the indentation of a block scalar and over empty lines, and returns the line breaks
and the indentation. If the indentation is not known yet, the first line that is not empty
decides. -/
def blockBreaks (known : Nat) (start : Mark) : Scan (List Char × Nat) := do
  let mut breaks := []
  let mut deepest := 0
  for _ in [0:← fuel] do
    for _ in [0:← fuel] do
      let column := (← get).mark.column
      if (known = 0 || column < known) && (← peek 0) = ' ' then skip else break
    let column := (← get).mark.column
    if column > deepest then deepest := column
    if (known = 0 || column < known) && (← peek 0) = '\t' then
      complain (some start) "found a tab character where an indentation space is expected"
    if !isBreak (← peek 0) then break
    breaks := breaks ++ (← readBreak)
  if known ≠ 0 then return (breaks, known)
  let least := ((← get).indent + 1).toNat
  return (breaks, max 1 (max deepest least))

/-- Scans a block scalar. -/
def blockScalar (literal : Bool) : Scan Unit := do
  removeKey
  modify fun scanner => { scanner with keyAllowed := true }
  let start := (← get).mark
  skip
  let mut chomping := Chomping.clip
  let mut increment := 0
  for _ in List.range 2 do
    let c ← peek 0
    if (c = '+' || c = '-') && chomping = .clip then
      chomping := if c = '+' then .keep else .strip
      skip
    else if c.isDigit && increment = 0 then
      if c = '0' then complain (some start) "found an indentation indicator equal to 0"
      increment := c.toNat - 0x30
      skip
  skipBlanks
  skipComment
  if !isBreakOrEnd (← peek 0) then
    complain (some start) "did not find expected comment or line break"
  if isBreak (← peek 0) then
    let _ ← readBreak
  let base := (max 0 (← get).indent).toNat
  let known := if increment = 0 then 0 else base + increment
  let (breaks, indent) ← blockBreaks known start
  let mut text : Array Char := #[]
  let mut trailing := breaks
  let mut leading : List Char := []
  let mut leadingBlank := false
  for _ in [0:← fuel] do
    if (← get).mark.column ≠ indent || (← peek 0) = '\x00' then break
    let trailingBlank := isSpaceOrTab (← peek 0)
    if !literal && leading = ['\n'] && !leadingBlank && !trailingBlank then
      if trailing = [] then text := text.push ' '
    else text := text ++ leading.toArray
    leading := []
    text := text ++ trailing.toArray
    leadingBlank := isSpaceOrTab (← peek 0)
    let line ← readWhile fun c => !isBreakOrEnd c
    text := text ++ line.toList.toArray
    if isBreak (← peek 0) then leading ← readBreak
    trailing := (← blockBreaks indent start).1
  if chomping ≠ .strip then text := text ++ leading.toArray
  if chomping = .keep then text := text ++ trailing.toArray
  emit start (.scalar (String.ofList text.toList) (if literal then .literal else .folded))

end TapeMachine.Yaml.Scan
