import TapeMachine.Text.Base64
import TapeMachine.Text.Calendar
import TapeMachine.Text.Integer
import TapeMachine.Yaml.Node

/-! What the scalars of a YAML document mean. -/

namespace TapeMachine.Yaml

/-- The meaning of a scalar. -/
inductive Scalar where
  /-- Nothing. -/
  | null
  /-- A truth value. -/
  | truth (value : Bool)
  /-- An integer. -/
  | integer (value : Int)
  /-- A number with a point or an exponent. -/
  | real (value : Decimal)
  /-- An infinite number. -/
  | infinite (negative : Bool)
  /-- The number that is none. -/
  | notNumber
  /-- A day, perhaps with a time. -/
  | time
  /-- A text. -/
  | text (value : Bytes)
  deriving DecidableEq, Repr

namespace Scalar

/-- The words that mean something. -/
def words : List (String × Scalar) :=
  [("true", .truth true), ("True", .truth true), ("TRUE", .truth true),
   ("false", .truth false), ("False", .truth false), ("FALSE", .truth false),
   ("", .null), ("~", .null), ("null", .null), ("Null", .null), ("NULL", .null),
   (".nan", .notNumber), (".NaN", .notNumber), (".NAN", .notNumber),
   (".inf", .infinite false), (".Inf", .infinite false), (".INF", .infinite false),
   ("+.inf", .infinite false), ("+.Inf", .infinite false), ("+.INF", .infinite false),
   ("-.inf", .infinite true), ("-.Inf", .infinite true), ("-.INF", .infinite true)]

/-- Months, days and times may have one digit, and times have seconds. -/
def timeStyle : TimeStyle := ⟨1, false⟩

/-- Whether a text is a day, perhaps with a time: behind a letter the time has a zone, and behind
spaces it has none. -/
def isTime (text : List Char) : Bool :=
  match timeStyle.day? text with
  | none => false
  | some [] => true
  | some (mark :: rest) =>
    if mark = ' ' then timeStyle.timeOfDay? (rest.dropWhile (· = ' ')) = some []
    else (mark = 'T' || mark = 't') && ((timeStyle.timeOfDay? rest).map TimeStyle.isZone).getD false

/-- Reads an integer in a base, perhaps with a sign. -/
def inBase? (base : Nat) (text : List Char) : Option Int :=
  let (negative, digits) := takeSign (utf8 (String.ofList text))
  if digits = [] then none
  else ((readDigits base false 0 digits).bind (signed negative)).toOption

/-- Reads digits that are too many for a signed 64-bit word but not for an unsigned one. -/
def unsigned? (text : List Char) : Option Int :=
  let digits := utf8 (String.ofList text)
  let (base, rest) := splitBase digits
  if digits = [] then none
  else (readDigits base false 0 rest).toOption.map fun (value : Nat) => (value : Int)

/-- Reads an integer behind a mark of its base, where the sign may also stand behind the mark. -/
def marked? (text : List Char) : Option Int :=
  match text with
  | '0' :: 'b' :: rest => inBase? 2 rest
  | '-' :: '0' :: 'b' :: rest => inBase? 2 ('-' :: rest)
  | '0' :: 'o' :: rest => inBase? 8 rest
  | '-' :: '0' :: 'o' :: rest => inBase? 8 ('-' :: rest)
  | _ => none

/-- Reads a number with a point or an exponent, if it is not too large. -/
def real? (text : List Char) : Option Scalar := do
  let number ← Decimal.parse? text
  if number.isHeld then some (.real number) else none

/-- Reads a number that starts with a point; underscores stand between digits only. -/
def fraction? (text : List Char) : Option Scalar :=
  if underscoresFit false .other (utf8 (String.ofList text)) then real? (text.filter (· ≠ '_'))
  else none

/-- Reads a number; underscores in it do not matter. -/
def number? (text : List Char) : Option Scalar :=
  let plain := text.filter (· ≠ '_')
  match parseBased (utf8 (String.ofList plain)) with
  | .ok value => some (.integer value)
  | .error _ =>
    ((unsigned? plain).map Scalar.integer).or
      ((real? plain).or ((marked? plain).map Scalar.integer))

/-- The meaning of a text without quotes; its first character tells what it can be. A time is looked
for only if asked for. -/
def ofPlain (times : Bool) (text : String) : Scalar :=
  let other := Scalar.text (utf8 text)
  match words.find? fun (word, _) => word = text with
  | some (_, value) => value
  | none =>
    match text.toList with
    | [] => .null
    | first :: rest =>
      if first.isDigit || first = '+' || first = '-' then
        if times && isTime (first :: rest) then .time
        else (number? (first :: rest)).getD other
      else if first = '.' then (fraction? (first :: rest)).getD other
      else other

/-- The tag of a meaning. -/
def tag : Scalar → String
  | null => "!!null"
  | truth _ => "!!bool"
  | integer _ => "!!int"
  | real _ => "!!float"
  | infinite _ => "!!float"
  | notNumber => "!!float"
  | time => "!!timestamp"
  | text _ => "!!str"

/-- One more than the greatest value of a signed 64-bit word. -/
def wordLimit : Int := signedLimit

/-- The tags that demand a meaning. -/
def demandingTags : List String := ["!!bool", "!!int", "!!float", "!!null", "!!timestamp"]

/-- The meaning of a text under a tag. -/
def ofTagged (wanted text : String) : Except Error Scalar :=
  if wanted = "!!binary" then
    match base64? text.toList with
    | some bytes => .ok (.text bytes)
    | none => .error (.malformed none "!!binary value contains invalid base64 data")
  else if !demandingTags.contains wanted then .ok (.text (utf8 text))
  else
    let found := ofPlain (wanted = "!!timestamp") text
    if found.tag = wanted then .ok found
    else match found with
    | .integer value =>
      if wanted = "!!float" && value < wordLimit then
        .ok (.real ⟨value < 0, value.natAbs, 0⟩)
      else .error (.malformed none
        ("cannot decode " ++ found.tag ++ " `" ++ text ++ "` as a " ++ wanted))
    | _ => .error (.malformed none
        ("cannot decode " ++ found.tag ++ " `" ++ text ++ "` as a " ++ wanted))

/-- The meaning of a scalar node. -/
def ofNode (tag? : Option String) (plain : Bool) (text : String) : Except Error Scalar :=
  match tag? with
  | some wanted => ofTagged wanted text
  | none =>
    if !plain || text = "<<" then .ok (.text (utf8 text))
    else .ok (ofPlain true text)

/-- The integer that a meaning can stand for. A number loses what is behind its point; one below
the bounds becomes the least word, and so does the first one above them. -/
def toInteger? : Scalar → Option Int
  | integer value => if value < wordLimit then some value else none
  | real value => do
    let whole ← value.magnitude?
    let signed : Int := if value.negative then -(whole : Int) else whole
    if wordLimit < signed then none
    else if signed < -wordLimit || signed = wordLimit then some (-wordLimit)
    else some signed
  | infinite true => some (-wordLimit)
  | _ => none

/-- The words that mean yes where a truth value is wanted. -/
def yesWords : List String := ["y", "Y", "yes", "Yes", "YES", "on", "On", "ON"]

/-- The words that mean no where a truth value is wanted. -/
def noWords : List String := ["n", "N", "no", "No", "NO", "off", "Off", "OFF"]

/-- The truth value that a meaning can stand for. -/
def toTruth? : Scalar → Option Bool
  | truth value => some value
  | text value =>
    if yesWords.any fun word => utf8 word = value then some true
    else if noWords.any fun word => utf8 word = value then some false
    else none
  | _ => none

/-- The text that a meaning stands for, given how it was written. -/
def toText (written : String) : Scalar → Bytes
  | text value => value
  | _ => utf8 written

end Scalar

end TapeMachine.Yaml
