import TapeMachine.Bytes

/-! Numerals: decimal and hexadecimal text of numbers. -/

namespace TapeMachine

/-- The hexadecimal digit of a value below sixteen, in lower case. -/
def hexDigit (n : Nat) : Char := Nat.digitChar n

/-- The lower-case hexadecimal digits of a number. -/
def hexDigits (n : Nat) : List Char := Nat.toDigits 16 n

/-- Puts zeros in front until the width is reached. -/
def zeroPad (width : Nat) (digits : List Char) : List Char :=
  List.replicate (width - digits.length) '0' ++ digits

/-- A number with eight hexadecimal digits at least; a minus sign takes the place of one. -/
def hex8 (n : Int) : String :=
  String.ofList <|
    if n < 0 then '-' :: zeroPad 7 (hexDigits n.natAbs) else zeroPad 8 (hexDigits n.natAbs)

/-- An address: `0x` and eight hexadecimal digits at least. -/
def address (n : Int) : String := "0x" ++ hex8 n

/-- The two hexadecimal digits of a byte. -/
def hexByte (b : UInt8) : String := String.ofList (zeroPad 2 (hexDigits b.toNat))

/-- The decimal numeral of an integer. -/
def decimal (n : Int) : String :=
  if n < 0 then "-" ++ String.ofList (Nat.toDigits 10 n.natAbs)
  else String.ofList (Nat.toDigits 10 n.natAbs)

/-- The name of a code in a list of names; a code without a name is shown with its kind. -/
def enumName (kind : String) (names : List String) (code : Int) : String :=
  match code, names[code.toNat]? with
  | .ofNat _, some name => name
  | code, _ => kind ++ "(" ++ decimal code ++ ")"

end TapeMachine
