import TapeMachine.Text.Decimal

/-! Days and times of day as they are written in configuration files. -/

namespace TapeMachine

/-- How days and times are written. -/
structure TimeStyle where
  /-- The least number of digits of a month, a day, an hour, a minute or a second. -/
  leastDigits : Nat
  /-- Whether a time needs no seconds. -/
  shortTimes : Bool

namespace TimeStyle

/-- Takes a number within bounds off the front. -/
def number? (style : TimeStyle) (least greatest : Nat) (text : List Char) :
    Option (Nat × List Char) :=
  let digits := (text.takeWhile Char.isDigit).take 2
  let value := Decimal.value digits
  if style.leastDigits ≤ digits.length && least ≤ value && value ≤ greatest then
    some (value, text.drop digits.length)
  else none

/-- Steps over a character. -/
def step? (c : Char) : List Char → Option (List Char)
  | [] => none
  | first :: rest => if first = c then some rest else none

/-- The number of days of a month. -/
def daysOf (year month : Nat) : Nat :=
  if month = 2 then
    if year % 4 = 0 && (year % 100 ≠ 0 || year % 400 = 0) then 29 else 28
  else if [4, 6, 9, 11].contains month then 30
  else 31

/-- Steps over a day at the front: a year of four digits, a month and a day. -/
def day? (style : TimeStyle) (text : List Char) : Option (List Char) := do
  let year := text.takeWhile Char.isDigit
  if year.length ≠ 4 then none
  let (month, afterMonth) ← style.number? 1 12 (← step? '-' (text.drop 4))
  let (_, rest) ←
    style.number? 1 (daysOf (Decimal.value year) month) (← step? '-' afterMonth)
  return rest

/-- Steps over seconds at the front, perhaps with a fraction behind a point or a comma. -/
def seconds? (style : TimeStyle) (text : List Char) : Option (List Char) := do
  let (_, afterSeconds) ← style.number? 0 59 (← step? ':' text)
  match afterSeconds with
  | mark :: c :: rest =>
    if (mark = '.' || mark = ',') && c.isDigit then some (rest.dropWhile Char.isDigit)
    else some (mark :: c :: rest)
  | rest => some rest

/-- Steps over a time of day at the front: hours, minutes and seconds. -/
def timeOfDay? (style : TimeStyle) (text : List Char) : Option (List Char) := do
  let (_, afterHours) ← style.number? 0 23 text
  let (_, afterMinutes) ← style.number? 0 59 (← step? ':' afterHours)
  if style.shortTimes && afterMinutes.head? ≠ some ':' then some afterMinutes
  else style.seconds? afterMinutes

/-- Whether a text is the distance of a time zone: `Z`, or a sign, hours and minutes. A whole day
and a whole hour of minutes are not too much. -/
def isZone (text : List Char) : Bool :=
  match text with
  | ['Z'] => true
  | [sign, a, b, ':', c, d] =>
    (sign = '+' || sign = '-') && [a, b, c, d].all Char.isDigit &&
      Decimal.value [a, b] ≤ 24 && Decimal.value [c, d] ≤ 60
  | _ => false

end TimeStyle

end TapeMachine
