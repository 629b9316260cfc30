import TapeMachine.Bytes

/-! Bytes written as base-64 text. -/

namespace TapeMachine

/-- The value of a base-64 digit. -/
def base64Digit? (c : Char) : Option Nat :=
  if 'A' ≤ c ∧ c ≤ 'Z' then some (c.toNat - 0x41)
  else if 'a' ≤ c ∧ c ≤ 'z' then some (c.toNat - 0x61 + 26)
  else if '0' ≤ c ∧ c ≤ '9' then some (c.toNat - 0x30 + 52)
  else if c = '+' then some 62
  else if c = '/' then some 63
  else none

/-- The bytes of base-64 text in groups of four digits; the last group may be padded. -/
def base64Groups? : List Char → Option Bytes
  | [] => some []
  | [a, b, '=', '='] => do
    let bits := (← base64Digit? a) * 64 + (← base64Digit? b)
    return [(bits / 16).toUInt8]
  | [a, b, c, '='] => do
    let bits := ((← base64Digit? a) * 64 + (← base64Digit? b)) * 64 + (← base64Digit? c)
    return [(bits / 1024).toUInt8, (bits / 4).toUInt8]
  | a :: b :: c :: d :: rest => do
    let high := (← base64Digit? a) * 64 + (← base64Digit? b)
    let bits := (high * 64 + (← base64Digit? c)) * 64 + (← base64Digit? d)
    return (bits / 65536).toUInt8 :: (bits / 256).toUInt8 :: bits.toUInt8 ::
      (← base64Groups? rest)
  | _ => none

/-- The bytes of base-64 text; line breaks in it do not matter. -/
def base64? (text : List Char) : Option Bytes :=
  base64Groups? (text.filter fun c => c ≠ '\n' && c ≠ '\r')

end TapeMachine
