import TapeMachine.Config.Decoder
import TapeMachine.Text.Utf8
import TapeMachine.Toml.Document

/-! A decoder of TOML for settings. -/

namespace TapeMachine.Toml

/-- A character with differences of case removed; the long s counts as an s. -/
def foldCase (c : Char) : Char := if c = 'ſ' then 's' else c.toLower

/-- Whether two names differ in case only. -/
def sameName (one other : String) : Bool :=
  one.toList.map foldCase = other.toList.map foldCase

/-- The setting that a name means: one of just that name, or else one that differs in case only. -/
def setting? (settings : List (String × Setting)) (name : String) : Option Setting :=
  let exact := settings.find? fun (known, _) => known = name
  (exact.or (settings.find? fun (known, _) => sameName known name)).map Prod.snd

/-- Gives a setting its value. -/
def assign (config : Config) (setting : Setting) (value : Value) : Except Error Config :=
  match setting, value with
  | .integer set, .integer number => .ok (set number config)
  | .truth set, .truth answer => .ok (set answer config)
  | .text set, .text text => .ok (set (utf8 text) config)
  | .integer _, value => .error (.mismatched value.kindName "integer")
  | .truth _, value => .error (.mismatched value.kindName "boolean")
  | .text _, value => .error (.mismatched value.kindName "string")

/-- Whether a key is the name of a setting. -/
def isSetting (settings : List (String × Setting)) (key : Key) : Bool :=
  match key with
  | [name] => (setting? settings name).isSome
  | _ => false

/-- Fills in a configuration by a TOML text, and finds the keys that mean nothing. -/
def fill (settings : List (String × Setting)) (config : Config) (text : Bytes) :
    Except Error (Config × List Key) := do
  let some chars := chars? (dropByteOrder text) | throw (.malformed 1 "invalid UTF-8 byte")
  let document ← Document.ofText chars
  let filled ← document.entries.foldlM (fun config (name, value) =>
    match setting? settings name with
    | some setting => assign config setting value
    | none => .ok config) config
  return (filled, document.keys.filter fun key => !isSetting settings key)

/-- Decodes TOML. -/
def decode (settings : List (String × Setting)) (config : Config) (text : Bytes) :
    Config × Except DecodeError (List Bytes) :=
  match fill settings config text with
  | .ok (filled, passed) => (filled, .ok (passed.map fun key => utf8 (keyText key)))
  | .error error => (config, .error (.failed error.message))

end TapeMachine.Toml
