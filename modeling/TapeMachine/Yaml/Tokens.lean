import TapeMachine.Yaml.Scan.Indicator
import TapeMachine.Yaml.Scan.Scalar

/-! The tokens of a whole YAML text. -/

namespace TapeMachine.Yaml

namespace Scan

/-- Scans the end of the text. -/
def streamEnd : Scan Unit := do
  modify fun scanner =>
    if scanner.mark.column = 0 then scanner
    else { scanner with mark := { scanner.mark with line := scanner.mark.line + 1, column := 0 } }
  closeBlocks (-1)
  removeKey
  modify fun scanner => { scanner with keyAllowed := false }
  emit (← get).mark .streamEnd

/-- The characters that cannot start a plain scalar. -/
def indicators : List Char := "-?:,[]\x7b\x7d#&*!|>'\"%@`".toList

/-- Scans a token that is no mark of a document. -/
def contentToken : Scan Unit := do
  let c ← peek 0
  let next ← peek 1
  let inFlow := (← get).flowLevel > 0
  if c = '[' then flowStart .flowSequenceStart
  else if c = '\x7b' then flowStart .flowMappingStart
  else if c = ']' then flowEnd .flowSequenceEnd
  else if c = '\x7d' then flowEnd .flowMappingEnd
  else if c = ',' then flowEntry
  else if c = '-' && isBlankOrEnd next then blockEntry
  else if c = '?' && (inFlow || isBlankOrEnd next) then explicitKey
  else if c = ':' && (inFlow || isBlankOrEnd next) then mappingValue
  else if c = '*' then anchorName .reference
  else if c = '&' then anchorName .anchor
  else if c = '!' then tag
  else if c = '|' && !inFlow then blockScalar true
  else if c = '>' && !inFlow then blockScalar false
  else if c = '\'' then quotedScalar true
  else if c = '"' then quotedScalar false
  else if !(isBlankOrEnd c || indicators.contains c) || (c = '-' && !isSpaceOrTab next) ||
      (!inFlow && (c = '?' || c = ':') && !isBlankOrEnd next) then plainScalar
  else complain none "found character that cannot start any token"

/-- The kind of the latest token. -/
def latestKind? : Scan (Option TokenKind) := do
  return (← get).tokens.back?.map (·.kind)

/-- Scans the next token, and perhaps tokens that stand before it. -/
def nextToken : Scan Unit := do
  toNextToken
  dropStaleKeys
  closeBlocks (← get).mark.column
  fetch 4
  let c ← peek 0
  if c = '\x00' then streamEnd
  else if (← get).mark.column = 0 && c = '%' then directive
  else if ← atDocumentMark '-' then documentMark .documentStart
  else if ← atDocumentMark '.' then documentMark .documentEnd
  else
    contentToken
    -- A comment behind a dash belongs to what follows.
    unless (← latestKind?) = some .blockEntry do skipLineComment

/-- Hands out the tokens that have two more behind them, up to one that may be a key. -/
def release : Scan Unit :=
  modify fun scanner =>
    let isHeld (place : Nat) : Bool := scanner.held.contains place &&
      scanner.keys.any fun key =>
        key.possible && key.token = place && !key.isStale scanner.mark
    let fresh := List.range' scanner.released (scanner.tokens.size - 2 - scanner.released)
    { scanner with
      released := scanner.released + (fresh.takeWhile fun place => !isHeld place).length }

/-- Scans all tokens. -/
def all : Scan Unit := do
  for _ in [0:← fuel] do
    nextToken
    if (← latestKind?) = some .streamEnd then break
    release

end Scan

/-- The tokens of a text up to its end, or up to the last one that was handed out before an
error. -/
structure Tokens where
  /-- The tokens. -/
  list : List Token
  /-- What is wrong behind them. -/
  error? : Option Error

/-- The tokens of a text. -/
def tokens (source : Source) : Tokens :=
  let scanner : Scanner :=
    { chars := #[], source, size := source.size, first := 0, behind := 0, mark := ⟨0, 0, 0⟩
      freshLine := false, tokens := #[], released := 0, held := [], indent := -1, indents := []
      flowLevel := 0, keyAllowed := true, keys := [⟨false, false, 0, ⟨0, 0, 0⟩⟩] }
  match Scan.all.run scanner with
  | (.ok (), scanned) => ⟨scanned.tokens.toList, none⟩
  | (.error error, scanned) => ⟨scanned.tokens.toList.take scanned.released, some error⟩

end TapeMachine.Yaml
