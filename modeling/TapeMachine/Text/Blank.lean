import TapeMachine.Text.Utf8

/-! White space and trimming: a text loses the blank characters at both of its ends. -/

namespace TapeMachine

/-- The characters with the Unicode property White_Space. -/
def blankChars : List Char :=
  ['\t', '\n', '\x0b', '\x0c', '\r', ' ', '\u0085', '\u00a0', '\u1680',
   '\u2000', '\u2001', '\u2002', '\u2003', '\u2004', '\u2005', '\u2006', '\u2007',
   '\u2008', '\u2009', '\u200a', '\u2028', '\u2029', '\u202f', '\u205f', '\u3000']

/-- Whether a character is white space. -/
def isBlank (c : Char) : Bool := blankChars.contains c

/-- Whether a unit is a white space character; a stray byte never is. -/
def Utf8Unit.isBlank : Utf8Unit → Bool
  | .char c => TapeMachine.isBlank c
  | .stray _ => false

/-- Removes white space from both ends. -/
def trimBlank (bytes : Bytes) : Bytes :=
  let kept := (Utf8Unit.scan [] bytes).dropWhile Utf8Unit.isBlank
  (kept.reverse.dropWhile Utf8Unit.isBlank).flatMap Utf8Unit.bytes

end TapeMachine
