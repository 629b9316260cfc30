import TapeMachine.Config.Decoder
import TapeMachine.Disk

/-! Settings that come from a file. -/

namespace TapeMachine

/-- Why a file gives no settings. -/
inductive ConfigFileError where
  /-- It cannot be read. -/
  | unreadable (path : Bytes) (error : FileError)
  /-- Its name does not tell how it is written. -/
  | unsupported (extension : Bytes)
  /-- It cannot be decoded. -/
  | undecodable (path : Bytes) (error : DecodeError)
  /-- It has a key that is not the name of a setting. -/
  | unknownKey (path key : Bytes)
  deriving DecidableEq, Repr

/-- Whether the error stops the whole program instead of being reported. -/
def ConfigFileError.isFatal : ConfigFileError → Bool
  | undecodable _ error => error.isFatal
  | _ => false

/-- The wording of the error. -/
def ConfigFileError.message : ConfigFileError → Bytes
  | unreadable path error => utf8 "cannot read " ++ path ++ utf8 ": " ++ error.message
  | unsupported extension => utf8 "unsupported config format " ++ quoted extension
  | undecodable path error =>
    if error.isFatal then error.message
    else utf8 "parse error in " ++ path ++ utf8 ": " ++ error.message
  | unknownKey path key =>
    utf8 "parse error in " ++ path ++ utf8 ": unknown key " ++ quoted key

/-- The ways to write settings. -/
inductive ConfigFormat where
  /-- YAML. -/
  | yaml
  /-- TOML. -/
  | toml
  deriving DecidableEq, Repr

/-- What the last part of a path has from its last dot on. -/
def extension (path : Bytes) : Bytes :=
  let part := (path.splitOn (ascii '/')).getLastD []
  if part.contains (ascii '.') then
    ascii '.' :: (part.reverse.takeWhile (· ≠ ascii '.')).reverse
  else []

/-- The format that an extension tells, in whatever case. -/
def ConfigFormat.ofExtension? (extension : Bytes) : Option ConfigFormat :=
  let lower := lowerCase extension
  if lower = utf8 ".yaml" || lower = utf8 ".yml" then some .yaml
  else if lower = utf8 ".toml" then some .toml
  else none

/-- What the decoder of YAML leaves. A text that ends before anything begins is no failure, unlike
one that stops short. -/
def ConfigFileError.orYaml (path : Bytes) :
    Config × Option DecodeError → Except ConfigFileError Config
  | (config, none) => .ok config
  | (config, some .ended) => .ok config
  | (_, some error) => .error (.undecodable path error)

/-- What the decoder of TOML leaves. The first key that it has passed over is a failure. -/
def ConfigFileError.orToml (path : Bytes) :
    Config × Except DecodeError (List Bytes) → Except ConfigFileError Config
  | (config, .ok []) => .ok config
  | (_, .ok (key :: _)) => .error (.unknownKey path key)
  | (_, .error error) => .error (.undecodable path error)

/-- The settings of a file on top of given ones, from what reading the file gave. -/
def Config.withFile (decoders : ConfigDecoders) (config : Config) (path : Bytes)
    (content : Except FileError Bytes) : Except ConfigFileError Config := do
  let text ← content.mapError (.unreadable path)
  match ConfigFormat.ofExtension? (extension path) with
  | none => throw (.unsupported (extension path))
  | some .yaml => ConfigFileError.orYaml path (decoders.yaml settings config text)
  | some .toml => ConfigFileError.orToml path (decoders.toml settings config text)

end TapeMachine
