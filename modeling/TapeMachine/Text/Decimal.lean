import TapeMachine.Bytes

/-! Numbers with a decimal point or an exponent, and their integer parts. -/

namespace TapeMachine

/-- The number `± digits × 10 ^ exponent`. -/
structure Decimal where
  /-- Whether it is negative. -/
  negative : Bool
  /-- Its digits. -/
  digits : Nat
  /-- The place of the last digit. -/
  exponent : Int
  deriving DecidableEq, Repr

namespace Decimal

/-- The value of decimal digits. -/
def value (digits : List Char) : Nat :=
  digits.foldl (fun value c => value * 10 + (c.toNat - 0x30)) 0

/-- Splits a sign off. -/
def splitSign : List Char → Bool × List Char
  | '-' :: rest => (true, rest)
  | '+' :: rest => (false, rest)
  | rest => (false, rest)

/-- Reads an exponent: nothing, or `e` and a number with an optional sign. -/
def parseExponent? : List Char → Option Int
  | [] => some 0
  | mark :: rest =>
    let (negative, digits) := splitSign rest
    if (mark = 'e' || mark = 'E') && digits ≠ [] && digits.all Char.isDigit then
      some (if negative then -(value digits : Int) else value digits)
    else none

/-- Reads a number with an optional sign, point and exponent; there is a digit before the exponent,
and behind a point that starts the number. -/
def parse? (text : List Char) : Option Decimal := do
  let (negative, unsigned) := splitSign text
  let whole := unsigned.takeWhile Char.isDigit
  let afterWhole := unsigned.dropWhile Char.isDigit
  let (fraction, afterFraction) := match afterWhole with
    | '.' :: rest => (rest.takeWhile Char.isDigit, rest.dropWhile Char.isDigit)
    | rest => ([], rest)
  if whole = [] && fraction = [] then none
  let exponent ← parseExponent? afterFraction
  return ⟨negative, value (whole ++ fraction), exponent - fraction.length⟩

/-- The quotient rounded to the nearest integer, with halves to the even one. -/
def roundDiv (dividend divisor : Nat) : Nat :=
  let quotient := dividend / divisor
  let twice := 2 * (dividend % divisor)
  if twice < divisor || (twice = divisor && quotient % 2 = 0) then quotient else quotient + 1

/-- The number of binary digits in front of the point of `dividend / divisor`. -/
def binaryDigits (dividend divisor : Nat) : Nat :=
  let quotient := dividend / divisor
  if quotient = 0 then 0 else quotient.log2 + 1

/-- The number of binary digits that a number is rounded to before its integer part is taken. -/
def precision : Nat := 53

/-- The integer part of a fraction after it has been rounded to 53 binary digits. -/
def wholePart (dividend divisor : Nat) : Nat :=
  let width := binaryDigits dividend divisor
  if width ≤ precision then
    let scale := Nat.pow 2 (precision - width)
    roundDiv (dividend * scale) divisor / scale
  else
    let scale := Nat.pow 2 (width - precision)
    roundDiv dividend (divisor * scale) * scale

/-- The number of decimal digits of a number. -/
def width (n : Nat) : Nat := (Nat.toDigits 10 n).length

/-- More than this many digits in front of the point make a number too large for any use. -/
def widthLimit : Int := 309

/-- The integer part of a number as a 53-bit number holds it, or nothing if it is too large. -/
def magnitude? (number : Decimal) : Option Nat :=
  if number.digits = 0 then some 0
  else
    let places := (width number.digits : Int) + number.exponent
    if places < 0 then some 0
    else if places > widthLimit then none
    else if number.exponent ≥ 0 then
      some (wholePart (number.digits * Nat.pow 10 number.exponent.toNat) 1)
    else some (wholePart number.digits (Nat.pow 10 (-number.exponent).toNat))

/-- The largest number that can be held has this many binary digits. -/
def largest : Nat := 1024

/-- Whether a number is not too large to be held. -/
def isHeld (number : Decimal) : Bool :=
  match number.magnitude? with
  | some whole => whole < Nat.pow 2 largest
  | none => false

end Decimal

end TapeMachine
