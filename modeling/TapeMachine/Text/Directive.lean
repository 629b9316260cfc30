import TapeMachine.Text.Utf8

/-! Titles are templates with no arguments: `%%` is a percent sign, and any other directive asks
for an argument that is missing. -/

namespace TapeMachine

/-- The flags that may follow a percent sign. -/
def isDirectiveFlag (b : UInt8) : Bool :=
  b = ascii '#' || b = ascii '0' || b = ascii '+' || b = ascii '-' || b = ascii ' '

/-- Whether a byte is an ASCII digit. -/
def isDigitByte (b : UInt8) : Bool := 0x30 ≤ b && b ≤ 0x39

/-- The largest number that a directive may carry before one more digit is too many. -/
def directiveLimit : Nat := 1000000

/-- Reads a number; one that grows past the limit swallows the rest of the text. -/
def directiveNumber (value : Nat) (seen : Bool) : Bytes → Option Nat × Bytes
  | [] => (if seen then some value else none, [])
  | b :: rest =>
    if isDigitByte b then
      if value > directiveLimit then (none, [])
      else directiveNumber (value * 10 + (b.toNat - 0x30)) true rest
    else (if seen then some value else none, b :: rest)

/-- What a directive has read of an argument index. -/
inductive ArgumentIndex where
  /-- There is none. -/
  | absent
  /-- A bracketed number. -/
  | number
  /-- An opening bracket that is not followed by a number and a closing bracket. -/
  | malformed
  deriving DecidableEq, Repr

/-- Reads an argument index such as `[3]`. -/
def argumentIndex : Bytes → ArgumentIndex × Bytes
  | [] => (.absent, [])
  | b :: rest =>
    if b ≠ ascii '[' then (.absent, b :: rest)
    else if rest.length < 2 then (.malformed, rest)
    else
      let inside := rest.takeWhile (· ≠ ascii ']')
      if inside.length = rest.length then (.malformed, rest)
      else
        let behind := rest.drop (inside.length + 1)
        match directiveNumber 0 false inside with
        | (some _, []) => (.number, behind)
        | _ => (.malformed, behind)

/-- The text that reports a directive whose argument is missing or badly indexed. -/
def directiveReport (verb : Utf8Unit) (reason : String) : Bytes :=
  utf8 "%!" ++ String.utf8EncodeChar verb.shown ++ utf8 ("(" ++ reason ++ ")")

/-- The state of a directive while its parts are read. -/
structure DirectiveScan where
  /-- What has been written so far. -/
  written : Bytes
  /-- Whether every argument index so far was one that could be used. -/
  indexed : Bool
  /-- The text still to read. -/
  rest : Bytes

/-- Reads an optional argument index. No index can be used, as there are no arguments. -/
def DirectiveScan.index (scan : DirectiveScan) : DirectiveScan × Bool :=
  match argumentIndex scan.rest with
  | (.absent, _) => (scan, false)
  | (.number, rest) => ({ scan with indexed := false, rest := rest }, true)
  | (.malformed, rest) => ({ scan with indexed := false, rest := rest }, false)

/-- Reads a width or a precision: a star, which asks for an argument, or a number. -/
def DirectiveScan.measure (scan : DirectiveScan) (complaint : String) : DirectiveScan × Bool :=
  match scan.rest with
  | b :: rest =>
    if b = ascii '*' then
      ({ scan with written := scan.written ++ utf8 complaint, rest := rest }, true)
    else ({ scan with rest := (directiveNumber 0 false scan.rest).2 }, false)
  | [] => (scan, false)

/-- Reads one directive behind its percent sign: what it writes and the text after it. A point at
the end of the text starts no precision but is the verb. -/
def directive (text : Bytes) : Bytes × Bytes :=
  let scan : DirectiveScan := ⟨[], true, text.dropWhile isDirectiveFlag⟩
  let (scan, afterIndex) := scan.index
  let hasNumber := match scan.rest with
    | b :: _ => b ≠ ascii '*' && (directiveNumber 0 false scan.rest).1.isSome
    | [] => false
  let (scan, starred) := scan.measure "%!(BADWIDTH)"
  let scan := if afterIndex && hasNumber then { scan with indexed := false } else scan
  let afterIndex := afterIndex && !starred
  let (scan, afterIndex) := match scan.rest with
    | b :: rest =>
      if b = ascii '.' && rest ≠ [] then
        let scan := { scan with rest := rest, indexed := scan.indexed && !afterIndex }
        let (scan, afterIndex) := scan.index
        let (scan, starred) := scan.measure "%!(BADPREC)"
        (scan, afterIndex && !starred)
      else (scan, afterIndex)
    | [] => (scan, afterIndex)
  let scan := if afterIndex then scan else scan.index.1
  match scan.rest with
  | [] => (scan.written ++ utf8 "%!(NOVERB)", [])
  | b :: tail =>
    let (verb, rest) := match nextChar? (b :: tail) with
      | some (c, rest) => (Utf8Unit.char c, rest)
      | none => (Utf8Unit.stray b, tail)
    if verb = .char '%' then (scan.written ++ [ascii '%'], rest)
    else if scan.indexed then (scan.written ++ directiveReport verb "MISSING", rest)
    else (scan.written ++ directiveReport verb "BADINDEX", rest)

/-- Expands the directives of a template, given as much fuel as it has bytes. -/
def expandTemplateFrom : Nat → Bytes → Bytes
  | 0, text => text
  | fuel + 1, text =>
    let plain := text.takeWhile (· ≠ ascii '%')
    match text.drop plain.length with
    | [] => plain
    | _ :: behind =>
      let (written, rest) := directive behind
      plain ++ written ++ expandTemplateFrom fuel rest

/-- Expands the directives of a template that is given no arguments. -/
def expandTemplate (text : Bytes) : Bytes := expandTemplateFrom text.length text

end TapeMachine
