import TapeMachine.Text.Numeral
import TapeMachine.Text.Quoted

/-! The values of a TOML document, and the names of its keys. -/

namespace TapeMachine.Toml

/-- A value in a document. Of numbers with a fraction, times and arrays only the kind is kept. -/
inductive Value where
  /-- A text. -/
  | text (value : String)
  /-- An integer. -/
  | integer (value : Int)
  /-- A truth value. -/
  | truth (value : Bool)
  /-- A number with a fraction or an exponent. -/
  | real
  /-- A day, a time or both. -/
  | time
  /-- An array. -/
  | array
  /-- A table. -/
  | table (entries : List (String × Value))
  /-- An array of tables that grows header by header. -/
  | tables (items : List (List (String × Value)))
  deriving Repr

/-- The entries of a table. -/
abbrev Entries := List (String × Value)

/-- The parts of a dotted key. -/
abbrev Key := List String

/-- The name of the kind of a value in messages. -/
def Value.kindName : Value → String
  | text _ => "string"
  | integer _ => "int64"
  | truth _ => "bool"
  | real => "float64"
  | time => "time.Time"
  | array => "[]any"
  | table _ => "map[string]any"
  | tables _ => "[]map[string]any"

/-- Whether a character may stand in a key without quotes. -/
def isBareChar (c : Char) : Bool :=
  (c.isAlphanum && c.toNat < 0x80) || c = '_' || c = '-'

/-- How a character is written in a quoted key. -/
def quotedKeyChar (c : Char) : String :=
  match c with
  | '"' => "\\\""
  | '\\' => "\\\\"
  | '\x08' => "\\b"
  | '\t' => "\\t"
  | '\n' => "\\n"
  | '\x0c' => "\\f"
  | '\r' => "\\r"
  | _ =>
    if c.toNat < 0x20 || c.toNat = 0x7f then "\\u00" ++ hexByte c.toUInt8
    else c.toString

/-- A part of a key as it would be written: in quotes if need be. -/
def keyPartText (part : String) : String :=
  if part ≠ "" && part.toList.all isBareChar then part
  else "\"" ++ String.join (part.toList.map quotedKeyChar) ++ "\""

/-- A key as it would be written. -/
def keyText (key : Key) : String := String.intercalate "." (key.map keyPartText)

/-- Why a text is not a usable document. -/
inductive Error where
  /-- Something is wrong with its form. -/
  | malformed (line : Nat) (problem : String)
  /-- A value does not fit the setting that it is for. -/
  | mismatched (found wanted : String)
  deriving DecidableEq, Repr

/-- The wording of an error. -/
def Error.message : Error → Bytes
  | malformed line problem => utf8 ("toml: line " ++ decimal line ++ ": " ++ problem)
  | mismatched found wanted =>
    utf8 ("toml: incompatible types: TOML value has type " ++ found ++
      "; destination has type " ++ wanted)

end TapeMachine.Toml
