import TapeMachine.Yaml.Scan.Basic

/-! The tokens that give a YAML text its structure: directives, marks, brackets, dashes, keys, names
and tags. -/

namespace TapeMachine.Yaml.Scan

/-- Reads the number of a version. -/
def versionNumber (start : Mark) : Scan Nat := do
  let digits ← readWhile Char.isDigit
  if digits.length = 0 then complain (some start) "did not find expected version number"
  if digits.length > 2 then complain (some start) "found extremely long version number"
  return digits.foldl (fun value c => value * 10 + (c.toNat - 0x30)) 0

/-- Whether a character may stand in a tag. -/
def isTagChar (c : Char) : Bool :=
  isNameChar c || ";/?:@&=+$,.!~*'()[]".toList.contains c

/-- Reads the handle of a tag, such as `!`, `!!` or `!name!`. -/
def tagHandle (start : Mark) (directive : Bool) : Scan String := do
  if (← peek 0) ≠ '!' then complain (some start) "did not find expected '!'"
  skip
  let name ← readWhile isNameChar
  if (← peek 0) = '!' then
    skip
    return "!" ++ name ++ "!"
  if directive && name.length > 0 then complain (some start) "did not find expected '!'"
  return "!" ++ name

/-- Reads a byte that is written as a percent sign and two hexadecimal digits. -/
def escapedByte (start : Mark) : Scan UInt8 := do
  let percent ← peek 0
  match percent, hexValue? (← peek 1), hexValue? (← peek 2) with
  | '%', some high, some low =>
    skip
    skip
    skip
    return UInt8.ofNat (high * 16 + low)
  | _, _, _ => complain (some start) "did not find URI escaped octet"

/-- Reads a character whose UTF-8 bytes are escaped. -/
def escapedChar (start : Mark) : Scan Char := do
  let first ← escapedByte start
  let some width := utf8Width? first
    | complain (some start) "found an incorrect leading UTF-8 octet"
  let mut bytes := [first]
  for _ in [1:width] do
    let next ← escapedByte start
    if !isContinuation next then
      complain (some start) "found an incorrect trailing UTF-8 octet"
    bytes := bytes ++ [next]
  return ((nextChar? bytes).map Prod.fst).getD '\ufffd'

/-- Reads the characters of a tag behind those that are known. -/
def tagText (start : Mark) (known : String) : Scan String := do
  let mut text := #[]
  for _ in [0:← fuel] do
    let c ← peek 0
    if c = '%' then text := text.push (← escapedChar start)
    else if isTagChar c then text := text.push (← read)
    else break
  return known ++ String.ofList text.toList

/-- Reads the characters of a tag; there is one at least. -/
def tagTail (start : Mark) : Scan String := do
  let text ← tagText start ""
  if text.length = 0 then complain (some start) "did not find expected tag URI"
  return text

/-- Scans a directive. -/
def directive : Scan Unit := do
  closeBlocks (-1)
  removeKey
  modify fun scanner => { scanner with keyAllowed := false }
  let start := (← get).mark
  skip
  let name ← readWhile isNameChar
  if name.length = 0 then complain (some start) "could not find expected directive name"
  if !isBlankOrEnd (← peek 0) then
    complain (some start) "found unexpected non-alphabetical character"
  let kind ← match name with
    | "YAML" => do
      skipBlanks
      let major ← versionNumber start
      if (← peek 0) ≠ '.' then complain (some start) "did not find expected digit or '.' character"
      skip
      let minor ← versionNumber start
      pure (TokenKind.versionDirective major minor)
    | "TAG" => do
      skipBlanks
      let handle ← tagHandle start true
      if !isSpaceOrTab (← peek 0) then complain (some start) "did not find expected whitespace"
      skipBlanks
      let head ← tagTail start
      if !isBlankOrEnd (← peek 0) then
        complain (some start) "did not find expected whitespace or line break"
      pure (TokenKind.tagDirective handle head)
    | _ => complain (some start) "found unknown directive name"
  skipBlanks
  skipComment
  if !isBreakOrEnd (← peek 0) then
    complain (some start) "did not find expected comment or line break"
  if isBreak (← peek 0) then
    let _ ← readBreak
  emit start kind

/-- Scans `---` or `...`. -/
def documentMark (kind : TokenKind) : Scan Unit := do
  closeBlocks (-1)
  removeKey
  modify fun scanner => { scanner with keyAllowed := false }
  let start := (← get).mark
  skip
  skip
  skip
  emit start kind

/-- Scans `[` or `{`. -/
def flowStart (kind : TokenKind) : Scan Unit := do
  saveKey
  let scanner ← get
  let start := scanner.mark
  if maxDepth ≤ scanner.flowLevel then complain (some start) "exceeded max depth of 10000"
  set { scanner with
    flowLevel := scanner.flowLevel + 1
    keys := ⟨false, false, scanner.tokens.size, start⟩ :: scanner.keys
    keyAllowed := true }
  skip
  emit start kind

/-- Leaves a flow collection. What may have been a key in it is no longer held back. -/
def leaveFlow : Scan Unit :=
  modify fun scanner =>
    match scanner.flowLevel, scanner.keys with
    | level + 1, key :: rest =>
      { scanner with flowLevel := level, keys := rest, held := scanner.held.erase key.token }
    | _, _ => scanner

/-- Scans `]` or `}`. -/
def flowEnd (kind : TokenKind) : Scan Unit := do
  removeKey
  leaveFlow
  let start := (← get).mark
  modify fun scanner => { scanner with keyAllowed := false }
  skip
  emit start kind

/-- Scans a comma. -/
def flowEntry : Scan Unit := do
  removeKey
  let start := (← get).mark
  modify fun scanner => { scanner with keyAllowed := true }
  skip
  emit start .flowEntry

/-- Scans the dash of a sequence entry. -/
def blockEntry : Scan Unit := do
  let scanner ← get
  if scanner.flowLevel = 0 then
    if !scanner.keyAllowed then
      complain none "block sequence entries are not allowed in this context"
    openBlock scanner.mark.column none scanner.mark .blockSequenceStart
  removeKey
  modify fun scanner => { scanner with keyAllowed := true }
  skip
  emit scanner.mark .blockEntry

/-- Scans a question mark. -/
def explicitKey : Scan Unit := do
  let scanner ← get
  if scanner.flowLevel = 0 then
    if !scanner.keyAllowed then complain none "mapping keys are not allowed in this context"
    openBlock scanner.mark.column none scanner.mark .blockMappingStart
  removeKey
  modify fun scanner => { scanner with keyAllowed := scanner.flowLevel = 0 }
  skip
  emit scanner.mark .key

/-- Scans a colon, which may make a simple key of what stands before it. -/
def mappingValue : Scan Unit := do
  let scanner ← get
  match scanner.keys.head?.filter SimpleKey.possible with
  | some key =>
    insert key.token key.mark .key
    openBlock key.mark.column (some key.token) key.mark .blockMappingStart
    dropKey
    modify fun scanner => { scanner with keyAllowed := false }
  | none =>
    if scanner.flowLevel = 0 then
      if !scanner.keyAllowed then complain none "mapping values are not allowed in this context"
      openBlock scanner.mark.column none scanner.mark .blockMappingStart
    modify fun scanner => { scanner with keyAllowed := scanner.flowLevel = 0 }
  skip
  emit scanner.mark .value

/-- Scans an anchor or a reference. -/
def anchorName (kind : String → TokenKind) : Scan Unit := do
  saveKey
  modify fun scanner => { scanner with keyAllowed := false }
  let start := (← get).mark
  skip
  let name ← readWhile isNameChar
  let next ← peek 0
  if name.length = 0 || !(isBlankOrEnd next || "?:,]\x7d%@`".toList.contains next) then
    complain (some start) "did not find expected alphabetic or numeric character"
  emit start (kind name)

/-- Scans a tag. -/
def tag : Scan Unit := do
  saveKey
  modify fun scanner => { scanner with keyAllowed := false }
  let start := (← get).mark
  let (handle, suffix) ←
    if (← peek 1) = '<' then do
      skip
      skip
      let suffix ← tagTail start
      if (← peek 0) ≠ '>' then complain (some start) "did not find the expected '>'"
      skip
      pure ("", suffix)
    else do
      let handle ← tagHandle start false
      if handle.length ≥ 2 && handle.endsWith "!" then
        pure (handle, ← tagTail start)
      else
        -- What looked like a handle is the suffix of a local tag, and it may go on.
        let suffix ← tagText start (handle.drop 1).toString
        pure (if suffix = "" then ("", "!") else ("!", suffix))
  if !isBlankOrEnd (← peek 0) then
    complain (some start) "did not find expected whitespace or line break"
  emit start (.tag handle suffix)

end TapeMachine.Yaml.Scan
