import TapeMachine.Config.Setting

/-! What the decoders of configuration files are asked to do. -/

namespace TapeMachine

/-- Why a decoder stopped. -/
inductive DecodeError where
  /-- The text ended before anything began. -/
  | ended
  /-- The text cannot be used. -/
  | failed (complaint : Bytes)
  /-- The whole program has to stop. -/
  | fatal (complaint : Bytes)
  deriving DecidableEq, Repr

/-- Whether the error stops the whole program instead of being reported. -/
def DecodeError.isFatal : DecodeError → Bool
  | fatal _ => true
  | _ => false

/-- The wording of the error. -/
def DecodeError.message : DecodeError → Bytes
  | ended => utf8 "EOF"
  | failed complaint => complaint
  | fatal complaint => complaint

/-- The decoders of the formats that settings are written in. Each is told the settings with their
names, and overwrites those of a configuration. -/
structure ConfigDecoders where
  /-- Decodes YAML; a key that is not the name of a setting is an error. -/
  yaml : List (String × Setting) → Config → Bytes → Config × Option DecodeError
  /-- Decodes TOML, and tells which keys it has passed over. -/
  toml : List (String × Setting) → Config → Bytes → Config × Except DecodeError (List Bytes)

end TapeMachine
