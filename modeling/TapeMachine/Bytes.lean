/-! Byte strings: the carrier of programs, input lines, output and messages. -/

namespace TapeMachine

/-- A byte string; nothing promises that it is valid UTF-8. -/
abbrev Bytes := List UInt8

/-- The UTF-8 bytes of a text. -/
def utf8 (text : String) : Bytes :=
  text.toList.flatMap String.utf8EncodeChar

/-- The byte of an ASCII character. -/
abbrev ascii (c : Char) : UInt8 := c.toUInt8

/-- The line feed that ends a line. -/
abbrev newline : UInt8 := 0x0a

/-- The carriage return that may stand before a line feed. -/
abbrev carriageReturn : UInt8 := 0x0d

/-- Joins byte strings with a separator between neighbours. -/
def joinWith (separator : Bytes) (pieces : List Bytes) : Bytes :=
  (pieces.intersperse separator).flatten

end TapeMachine
