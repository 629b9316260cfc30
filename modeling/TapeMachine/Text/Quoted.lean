import TapeMachine.Text.Numeral
import TapeMachine.Text.Printable
import TapeMachine.Text.Utf8

/-! Quoted text: a byte string between double quotes, with escapes for what cannot be shown. -/

namespace TapeMachine

/-- The escapes that have a letter of their own. -/
def letterEscape? (c : Char) : Option Char :=
  match c with
  | '"' => some '"'
  | '\\' => some '\\'
  | '\x07' => some 'a'
  | '\x08' => some 'b'
  | '\x0c' => some 'f'
  | '\n' => some 'n'
  | '\r' => some 'r'
  | '\t' => some 't'
  | '\x0b' => some 'v'
  | _ => none

/-- How one unit is written inside quotes. -/
def Utf8Unit.quoted : Utf8Unit → Bytes
  | .stray b => utf8 ("\\x" ++ hexByte b)
  | .char c =>
    match letterEscape? c with
    | some letter => utf8 (String.ofList ['\\', letter])
    | none =>
      if isPrintable c then String.utf8EncodeChar c
      else if c.toNat < 0x80 then
        utf8 (String.ofList ('\\' :: 'x' :: zeroPad 2 (hexDigits c.toNat)))
      else if c.toNat < 0x10000 then
        utf8 (String.ofList ('\\' :: 'u' :: zeroPad 4 (hexDigits c.toNat)))
      else utf8 (String.ofList ('\\' :: 'U' :: zeroPad 8 (hexDigits c.toNat)))

/-- Writes a byte string between double quotes. -/
def quoted (bytes : Bytes) : Bytes :=
  [ascii '"'] ++ (Utf8Unit.ofBytes bytes).flatMap Utf8Unit.quoted ++ [ascii '"']

end TapeMachine
