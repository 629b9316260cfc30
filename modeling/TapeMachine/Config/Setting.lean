import TapeMachine.Config.Basic

/-! The settings by the names that they have in files. -/

namespace TapeMachine

/-- How a value of some type becomes a part of a configuration. -/
inductive Setting where
  /-- An integer. -/
  | integer (set : Int → Config → Config)
  /-- A truth value. -/
  | truth (set : Bool → Config → Config)
  /-- A text. -/
  | text (set : Bytes → Config → Config)

/-- The name of the type of a setting in messages. -/
def Setting.typeName : Setting → String
  | integer _ => "int"
  | truth _ => "bool"
  | text _ => "string"

namespace Config

/-- The name of the type of a configuration in messages. -/
def typeName : String := "config.Config"

/-- The settings with their names. -/
def settings : List (String × Setting) :=
  [("tape_length", .integer fun value config => { config with tapeLength := value }),
   ("input_mode", .text fun value config => { config with inputMode := value }),
   ("debug", .truth fun value config => { config with debug := value }),
   ("trace", .truth fun value config => { config with trace := value }),
   ("stats", .truth fun value config => { config with stats := value }),
   ("log_level", .text fun value config => { config with logLevel := value }),
   ("log_file", .text fun value config => { config with logFile := value }),
   ("prompt", .text fun value config => { config with prompt := value })]

end Config

end TapeMachine
