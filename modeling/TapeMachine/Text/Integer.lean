import TapeMachine.Text.Quoted

/-! Reading integers and truth values that people type. -/

namespace TapeMachine

/-- What a text was read as. -/
inductive ValueKind where
  /-- A decimal integer. -/
  | decimal
  /-- An integer whose base its first characters tell. -/
  | based
  /-- A truth value. -/
  | truth
  deriving DecidableEq, Repr

/-- The name of the reader in messages. -/
def ValueKind.reader : ValueKind → String
  | decimal => "Atoi"
  | based => "ParseInt"
  | truth => "ParseBool"

/-- Why a text has no value. -/
inductive ValueFault where
  /-- It is not written like a value. -/
  | malformed
  /-- The value does not fit in a signed 64-bit word. -/
  | range
  deriving DecidableEq, Repr

/-- The wording of a fault. -/
def ValueFault.message : ValueFault → String
  | malformed => "invalid syntax"
  | range => "value out of range"

/-- A text that has no value. -/
structure ValueError where
  /-- What it was read as. -/
  kind : ValueKind
  /-- The text. -/
  text : Bytes
  /-- Why it has no value. -/
  fault : ValueFault
  deriving DecidableEq, Repr

/-- The wording of the error. -/
def ValueError.message (error : ValueError) : Bytes :=
  utf8 ("strconv." ++ error.kind.reader ++ ": parsing ") ++ quoted error.text ++
    utf8 (": " ++ error.fault.message)

/-- The number of values of a 64-bit word. -/
def wordCount : Nat := Nat.pow 2 64

/-- One more than the greatest value of a signed 64-bit word. -/
def signedLimit : Nat := Nat.pow 2 63

/-- The value of a digit in bases up to thirty-six. -/
def digitValue? (b : UInt8) : Option Nat :=
  if 0x30 ≤ b ∧ b ≤ 0x39 then some (b.toNat - 0x30)
  else if 0x61 ≤ b ∧ b ≤ 0x7a then some (b.toNat - 0x61 + 10)
  else if 0x41 ≤ b ∧ b ≤ 0x5a then some (b.toNat - 0x41 + 10)
  else none

/-- Reads digits, and underscores if they are allowed. The first digit that takes the value past an
unsigned 64-bit word is out of range, whatever follows it. -/
def readDigits (base : Nat) (underscores : Bool) (value : Nat) : Bytes → Except ValueFault Nat
  | [] => .ok value
  | b :: rest =>
    if underscores && b = ascii '_' then readDigits base underscores value rest
    else match digitValue? b with
    | none => .error .malformed
    | some digit =>
      if base ≤ digit then .error .malformed
      else if wordCount ≤ value * base + digit then .error .range
      else readDigits base underscores (value * base + digit) rest

/-- Takes a sign off the front. -/
def takeSign : Bytes → Bool × Bytes
  | [] => (false, [])
  | b :: rest =>
    if b = ascii '-' then (true, rest)
    else if b = ascii '+' then (false, rest)
    else (false, b :: rest)

/-- Gives a magnitude its sign, if a signed 64-bit word can hold the result. -/
def signed (negative : Bool) (magnitude : Nat) : Except ValueFault Int :=
  if negative then
    if magnitude ≤ signedLimit then .ok (-(magnitude : Int)) else .error .range
  else if magnitude < signedLimit then .ok magnitude else .error .range

/-- Reads a decimal integer with an optional sign. -/
def parseDecimal (text : Bytes) : Except ValueError Int :=
  let (negative, digits) := takeSign text
  let result : Except ValueFault Int := do
    if digits = [] then throw .malformed
    signed negative (← readDigits 10 false 0 digits)
  result.mapError (⟨.decimal, text, ·⟩)

/-- A letter in either case, as a byte. -/
def isLetterByte (letter : Char) (b : UInt8) : Bool :=
  b = ascii letter || b = ascii letter.toUpper

/-- Splits the mark of a base off unsigned digits: `0b`, `0o` and `0x` if something follows them,
and a lone `0` for base eight. -/
def splitBase (digits : Bytes) : Nat × Bytes :=
  match digits with
  | zero :: mark :: first :: rest =>
    if zero ≠ ascii '0' then (10, digits)
    else if isLetterByte 'b' mark then (2, first :: rest)
    else if isLetterByte 'o' mark then (8, first :: rest)
    else if isLetterByte 'x' mark then (16, first :: rest)
    else (8, mark :: first :: rest)
  | zero :: rest => if zero = ascii '0' then (8, rest) else (10, digits)
  | [] => (10, [])

/-- What the character before an underscore must be, and what must follow one. -/
inductive UnderscoreScan where
  /-- Nothing, or something that is no digit. -/
  | other
  /-- A digit. -/
  | digit
  /-- An underscore. -/
  | underscore
  deriving DecidableEq

/-- Whether underscores stand between digits only. -/
def underscoresFit (hex : Bool) (last : UnderscoreScan) : Bytes → Bool
  | [] => last ≠ .underscore
  | b :: rest =>
    let isDigit := match digitValue? b with
      | some value => value < 10 || (hex && value < 16)
      | none => false
    if isDigit then underscoresFit hex .digit rest
    else if b = ascii '_' then last = .digit && underscoresFit hex .underscore rest
    else last ≠ .underscore && underscoresFit hex .other rest

/-- Whether the underscores of unsigned digits stand between digits; the mark of a base counts as
one. -/
def underscoresOk (digits : Bytes) : Bool :=
  match digits with
  | zero :: mark :: rest =>
    if zero = ascii '0' &&
        (isLetterByte 'b' mark || isLetterByte 'o' mark || isLetterByte 'x' mark) then
      underscoresFit (isLetterByte 'x' mark) .digit rest
    else underscoresFit false .other digits
  | _ => underscoresFit false .other digits

/-- Reads an integer whose base its first characters tell; underscores may stand between digits. -/
def parseBased (text : Bytes) : Except ValueError Int :=
  let (negative, digits) := takeSign text
  let result : Except ValueFault Int := do
    if digits = [] then throw .malformed
    let (base, rest) := splitBase digits
    let magnitude ← readDigits base true 0 rest
    if digits.contains (ascii '_') && !underscoresOk digits then throw .malformed
    signed negative magnitude
  result.mapError (⟨.based, text, ·⟩)

/-- The words for a truth value. -/
def truthWords : List (String × Bool) :=
  [("1", true), ("t", true), ("T", true), ("true", true), ("TRUE", true), ("True", true),
   ("0", false), ("f", false), ("F", false), ("false", false), ("FALSE", false),
   ("False", false)]

/-- Reads a truth value. -/
def parseTruth (text : Bytes) : Except ValueError Bool :=
  match truthWords.find? fun (word, _) => utf8 word = text with
  | some (_, value) => .ok value
  | none => .error ⟨.truth, text, .malformed⟩

end TapeMachine
