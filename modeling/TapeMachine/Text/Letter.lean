import TapeMachine.Text.Utf8

/-! Lower case for texts that are compared with ASCII words. -/

namespace TapeMachine

/-- Lower case of a character, as far as the result can be an ASCII character.

Besides the ASCII capitals only U+0130 (dotted capital I) and U+212A (the Kelvin sign) have an
ASCII lower case; every other character is left alone, which no comparison with an ASCII word
can notice. -/
def lowerChar (c : Char) : Char :=
  if c = '\u0130' then 'i' else if c = '\u212a' then 'k' else c.toLower

/-- Lower case of a byte string; a stray byte becomes the replacement character. -/
def lowerCase (bytes : Bytes) : Bytes :=
  (Utf8Unit.ofBytes bytes).flatMap fun unit => String.utf8EncodeChar (lowerChar unit.shown)

/-- Upper case of an ASCII text. -/
def upperCase (text : String) : String := text.map Char.toUpper

end TapeMachine
