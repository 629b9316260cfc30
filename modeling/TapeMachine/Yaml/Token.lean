import TapeMachine.Text.Numeral

/-! The tokens of a YAML stream, and what can be wrong with one. -/

namespace TapeMachine.Yaml

/-- A place in the text, counted from zero. -/
structure Mark where
  /-- The characters before it. -/
  index : Nat
  /-- The lines before it. -/
  line : Nat
  /-- The characters before it on its line. -/
  column : Nat
  deriving DecidableEq, Repr, Inhabited

/-- How a scalar is written. -/
inductive ScalarStyle where
  /-- Without quotes. -/
  | plain
  /-- Between single quotes. -/
  | singleQuoted
  /-- Between double quotes. -/
  | doubleQuoted
  /-- As a block that keeps its line breaks. -/
  | literal
  /-- As a block that folds its line breaks. -/
  | folded
  deriving DecidableEq, Repr

/-- What a token is. -/
inductive TokenKind where
  /-- The end of the text. -/
  | streamEnd
  /-- The version of the language. -/
  | versionDirective (major minor : Nat)
  /-- A short name for the beginning of tags. -/
  | tagDirective (handle start : String)
  /-- `---` -/
  | documentStart
  /-- `...` -/
  | documentEnd
  /-- The first `-` of a block sequence. -/
  | blockSequenceStart
  /-- The first key of a block mapping. -/
  | blockMappingStart
  /-- The end of a block collection. -/
  | blockEnd
  /-- `[` -/
  | flowSequenceStart
  /-- `]` -/
  | flowSequenceEnd
  /-- `{` -/
  | flowMappingStart
  /-- `}` -/
  | flowMappingEnd
  /-- `-` -/
  | blockEntry
  /-- `,` -/
  | flowEntry
  /-- `?`, or what stands for it in front of a simple key. -/
  | key
  /-- `:` -/
  | value
  /-- `*name` -/
  | reference (name : String)
  /-- `&name` -/
  | anchor (name : String)
  /-- `!handle!suffix` -/
  | tag (handle suffix : String)
  /-- A scalar. -/
  | scalar (text : String) (style : ScalarStyle)
  deriving DecidableEq, Repr

/-- A token and where it starts. -/
structure Token where
  /-- What it is. -/
  kind : TokenKind
  /-- Where it starts. -/
  start : Mark
  deriving DecidableEq, Repr

/-- Why a text is not usable YAML. -/
inductive Error where
  /-- Something is wrong with its form, perhaps at a known line. -/
  | malformed (line : Option Nat) (problem : String)
  /-- Values do not fit what they are for. -/
  | mismatched (problems : List Bytes)
  /-- A collection of this type is a key where keys are compared. -/
  | incomparable (typeName : String)
  deriving DecidableEq, Repr

/-- The wording of an error. -/
def Error.message : Error → Bytes
  | malformed none problem => utf8 ("yaml: " ++ problem)
  | malformed (some line) problem => utf8 ("yaml: line " ++ decimal line ++ ": " ++ problem)
  | mismatched problems =>
    utf8 "yaml: unmarshal errors:\n  " ++ joinWith (utf8 "\n  ") problems
  | incomparable typeName => utf8 ("runtime error: hash of unhashable type " ++ typeName)

/-- Whether an error stops the whole program instead of being reported. -/
def Error.isFatal : Error → Bool
  | incomparable _ => true
  | _ => false

/-- The line that a complaint names: that of its context if it has one below the first line, or
else that of the problem, if that is below the first line. -/
def complaintLine (context : Option Mark) (problem : Mark) (shift : Nat) : Option Nat :=
  let line := match context with
    | some mark => if mark.line = 0 then problem.line else mark.line
    | none => problem.line
  if line = 0 then none else some (line + shift)

end TapeMachine.Yaml
