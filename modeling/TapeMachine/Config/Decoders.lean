import TapeMachine.Toml.Decode
import TapeMachine.Yaml.Decode

/-! The decoders that the command line runs with. -/

namespace TapeMachine

/-- Decoders of YAML and TOML. -/
def ConfigDecoders.builtIn : ConfigDecoders := ⟨Yaml.decode, Toml.decode⟩

end TapeMachine
