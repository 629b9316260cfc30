import TapeMachine.Machine.Mode
import TapeMachine.Message
import TapeMachine.Text.Blank
import TapeMachine.Text.Numeral
import TapeMachine.Text.Quoted

/-! Log records and the three ways to write them down. -/

namespace TapeMachine

/-- The importance of a record; a larger number is more important. -/
abbrev LogLevel := Int

namespace LogLevel

/-- Details for debugging. -/
def debug : LogLevel := -4

/-- Ordinary news. -/
def info : LogLevel := 0

/-- Every instruction and every byte. -/
def trace : LogLevel := 1

/-- Something looks wrong. -/
def warn : LogLevel := 4

/-- Something is wrong. -/
def error : LogLevel := 8

/-- A level's name: the nearest named level below it, and the distance to that. -/
def name (level : LogLevel) : String :=
  let (base, distance) :=
    if level < info then ("DEBUG", level - debug)
    else if level < warn then ("INFO", level - info)
    else if level < error then ("WARN", level - warn)
    else ("ERROR", level - error)
  if distance = 0 then base
  else if distance < 0 then base ++ decimal distance
  else base ++ "+" ++ decimal distance

end LogLevel

/-- A value in a log record. -/
inductive LogValue where
  /-- A text. -/
  | text (value : Bytes)
  /-- A number. -/
  | int (value : Int)
  /-- A truth value. -/
  | bool (value : Bool)
  /-- No value. -/
  | absent
  /-- A mode, which is a name to people and a number to programs. -/
  | mode (value : Mode)
  deriving DecidableEq, Repr

/-- A log record. -/
structure LogRecord where
  /-- Its importance. -/
  level : LogLevel
  /-- What it is about. -/
  message : Bytes
  /-- Named values. -/
  fields : List (Bytes × LogValue)
  deriving DecidableEq, Repr

/-- A record with an ASCII message and ASCII names. -/
def LogRecord.of (level : LogLevel) (message : String) (fields : List (String × LogValue)) :
    LogRecord :=
  ⟨level, utf8 message, fields.map fun (name, value) => (utf8 name, value)⟩

/-- Whether a unit makes a text need quotes in a text record. -/
def Utf8Unit.needsQuotes : Utf8Unit → Bool
  | .stray _ => true
  | .char c =>
    if c.toNat < 0x80 then c.toNat ≤ 0x20 || c = '"' || c = '='
    else c = '\ufffd' || TapeMachine.isBlank c || !isPrintable c

/-- A text in a text record: quoted if it is empty or could be misread. -/
def logText (text : Bytes) : Bytes :=
  if text = [] || (Utf8Unit.ofBytes text).any Utf8Unit.needsQuotes then quoted text else text

/-- A value in a text record. -/
def LogValue.inText : LogValue → Bytes
  | text value => logText value
  | int value => utf8 (decimal value)
  | bool value => utf8 (if value then "true" else "false")
  | absent => utf8 "<nil>"
  | mode value => utf8 value.name

/-- One unit of a text in a JSON record. -/
def Utf8Unit.inJson : Utf8Unit → Bytes
  | .stray _ => utf8 "\\ufffd"
  | .char c =>
    match c with
    | '"' => utf8 "\\\""
    | '\\' => utf8 "\\\\"
    | '\n' => utf8 "\\n"
    | '\r' => utf8 "\\r"
    | '\t' => utf8 "\\t"
    | '\u2028' => utf8 "\\u2028"
    | '\u2029' => utf8 "\\u2029"
    | c =>
      if c.toNat < 0x20 then utf8 ("\\u" ++ String.ofList (zeroPad 4 (hexDigits c.toNat)))
      else String.utf8EncodeChar c

/-- A text in a JSON record. -/
def jsonText (text : Bytes) : Bytes :=
  [ascii '"'] ++ (Utf8Unit.ofBytes text).flatMap Utf8Unit.inJson ++ [ascii '"']

/-- A value in a JSON record. -/
def LogValue.inJson : LogValue → Bytes
  | text value => jsonText value
  | int value => utf8 (decimal value)
  | bool value => utf8 (if value then "true" else "false")
  | absent => utf8 "null"
  | mode value => utf8 (decimal value.code)

namespace LogRecord

/-- The fields that are written down: all but those with neither a name nor a value. -/
def shownFields (record : LogRecord) : List (Bytes × LogValue) :=
  record.fields.filter fun field => !(field.1 = [] && field.2 = .absent)

/-- The fields of a text record, each behind a space. -/
def textFields (record : LogRecord) : Bytes :=
  record.shownFields.flatMap fun (name, value) =>
    [ascii ' '] ++ logText name ++ [ascii '='] ++ value.inText

/-- A record as a line of `name=value` pairs. -/
def asText (record : LogRecord) : Bytes :=
  utf8 ("level=" ++ record.level.name ++ " msg=") ++ logText record.message ++
    record.textFields ++ [newline]

/-- A record as a line that starts with its level and its message. -/
def asPlain (record : LogRecord) : Bytes :=
  utf8 (record.level.name ++ " ") ++ record.message ++ record.textFields ++ [newline]

/-- A record as a line that holds a JSON object. -/
def asJson (record : LogRecord) : Bytes :=
  utf8 "\x7b\"level\":" ++ jsonText (utf8 record.level.name) ++ utf8 ",\"msg\":" ++
    jsonText record.message ++
    (record.shownFields.flatMap fun (name, value) =>
      [ascii ','] ++ jsonText name ++ [ascii ':'] ++ value.inJson) ++
    utf8 "\x7d\n"

end LogRecord

/-- How records are written down. -/
inductive LogFormat where
  /-- `name=value` pairs. -/
  | text
  /-- JSON objects. -/
  | json
  /-- The level and the message first. -/
  | plain
  deriving DecidableEq, Repr

/-- A logger lets records of a level and above through. -/
structure Logger where
  /-- The least level that is let through. -/
  threshold : LogLevel
  /-- How records are written down. -/
  format : LogFormat
  /-- Where they go. -/
  channel : Channel
  deriving DecidableEq, Repr

namespace Logger

/-- The logger of a program that sets up none. -/
def preset : Logger := ⟨.info, .plain, .stderr⟩

/-- Whether records of a level are let through. -/
def enabled (logger : Logger) (level : LogLevel) : Bool := logger.threshold ≤ level

/-- A record as a line. -/
def line (logger : Logger) (record : LogRecord) : Bytes :=
  match logger.format with
  | .text => record.asText
  | .json => record.asJson
  | .plain => record.asPlain

/-- What a record leaves in the log: a line, or nothing if it is not let through. -/
def messages (logger : Logger) (record : LogRecord) : List Message :=
  if logger.enabled record.level then [⟨logger.channel, logger.line record⟩] else []

end Logger

/-- What a record leaves where there may be no logger. -/
def LogRecord.messages (record : LogRecord) : Option Logger → List Message
  | none => []
  | some logger => logger.messages record

end TapeMachine
