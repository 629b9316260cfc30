import TapeMachine.Config.Resolve

/-! Flags on a command line. -/

namespace TapeMachine.CommandLine

/-- What the flags of a command line say. -/
structure Options where
  /-- Whether help is asked for. -/
  help : Bool
  /-- The path of the configuration file; if empty, there is none. -/
  configPath : Bytes
  /-- The settings. -/
  settings : ConfigFlags
  /-- The path of the file that the report is saved in; if empty, it is not saved. -/
  output : Bytes
  deriving DecidableEq, Repr

/-- What no flag says. -/
def Options.none : Options := ⟨false, [], .none, []⟩

/-- What a flag does with its value. -/
inductive FlagEffect where
  /-- The value is a text. -/
  | text (set : Bytes → Options → Options)
  /-- The value is an integer. -/
  | integer (set : Int → Options → Options)
  /-- The value is a truth value, and it is true if it is left out. -/
  | truth (set : Bool → Options → Options)

/-- A flag. -/
structure Flag where
  /-- Its long name. -/
  name : String
  /-- Its letter, if it has one. -/
  letter : Option Char
  /-- What it does. -/
  effect : FlagEffect
  /-- What it is for. -/
  purpose : String

namespace Flag

/-- Whether the value of a flag can be left out. -/
def valueOptional (flag : Flag) : Bool :=
  match flag.effect with
  | .truth _ => true
  | _ => false

/-- The flag as messages name it. -/
def title (flag : Flag) : String :=
  match flag.letter with
  | some letter => "-" ++ letter.toString ++ ", --" ++ flag.name
  | none => "--" ++ flag.name

/-- Changes the settings. -/
def setting (change : ConfigFlags → ConfigFlags) (options : Options) : Options :=
  { options with settings := change options.settings }

/-- The flags that every command takes. -/
def shared : List Flag :=
  [⟨"config", none, .text fun path options => { options with configPath := path },
      "YAML or TOML configuration file"⟩,
   ⟨"debug", none, .truth fun value => setting ({ · with debug := some value }),
      "start in the debugger"⟩,
   ⟨"input-mode", none, .text fun value => setting ({ · with inputMode := some value }),
      "how input lines become bytes: line or stream"⟩,
   ⟨"log-file", none, .text fun value => setting ({ · with logFile := some value }),
      "write JSON logs to this file"⟩,
   ⟨"log-level", none, .text fun value => setting ({ · with logLevel := some value }),
      "debug, info, trace, warn or error"⟩,
   ⟨"prompt", none, .text fun value => setting ({ · with prompt := some value }),
      "print \"> \" before input: auto, always or never"⟩,
   ⟨"stats", none, .truth fun value => setting ({ · with stats := some value }),
      "print execution statistics to stderr"⟩,
   ⟨"tape-length", none, .integer fun value => setting ({ · with tapeLength := some value }),
      "number of tape cells (default " ++ decimal defaultTapeLength ++ ")"⟩,
   ⟨"trace", none, .truth fun value => setting ({ · with trace := some value }),
      "log every executed instruction"⟩]

/-- The flag that asks for help with a command. -/
def help (command : String) : Flag :=
  ⟨"help", some 'h', .truth fun value options => { options with help := value },
    "help for " ++ command⟩

/-- The flag that names the file that a report is saved in. -/
def output : Flag :=
  ⟨"output", some 'o', .text fun path options => { options with output := path },
    "also save the report to this file"⟩

/-- The flag with a long name. -/
def named? (flags : List Flag) (name : Bytes) : Option Flag :=
  flags.find? fun flag => utf8 flag.name = name

/-- The flag with a letter. -/
def lettered? (flags : List Flag) (letter : UInt8) : Option Flag :=
  flags.find? fun flag => flag.letter.map ascii = some letter

end Flag

/-- Why a command line cannot be understood. -/
inductive UsageError where
  /-- An argument looks like a flag and is none. -/
  | badSyntax (argument : Bytes)
  /-- No flag has this name. -/
  | unknownName (name : Bytes)
  /-- No flag has this letter. -/
  | unknownLetter (letter : UInt8) (letters : Bytes)
  /-- The flag in an argument has no value. -/
  | missingValue (argument : Bytes)
  /-- The flag with this letter has no value. -/
  | missingLetterValue (letter : UInt8) (letters : Bytes)
  /-- The value of a flag cannot be used. -/
  | invalidValue (value : Bytes) (flag : String) (error : ValueError)
  /-- There are too few or too many arguments. -/
  | argumentCount (wanted found : Nat)
  deriving DecidableEq, Repr

/-- A character of the first 256 between single quotes. -/
def quotedLetter (letter : UInt8) : Bytes :=
  let c := Char.ofNat letter.toNat
  let body :=
    if c = '\'' then utf8 "\\'" else if c = '"' then [letter] else (Utf8Unit.char c).quoted
  [ascii '\''] ++ body ++ [ascii '\'']

/-- The wording of a usage error. -/
def UsageError.message : UsageError → Bytes
  | badSyntax argument => utf8 "bad flag syntax: " ++ argument
  | unknownName name => utf8 "unknown flag: --" ++ name
  | unknownLetter letter letters =>
    utf8 "unknown shorthand flag: " ++ quotedLetter letter ++ utf8 " in -" ++ letters
  | missingValue argument => utf8 "flag needs an argument: " ++ argument
  | missingLetterValue letter letters =>
    utf8 "flag needs an argument: " ++ quotedLetter letter ++ utf8 " in -" ++ letters
  | invalidValue value flag error =>
    utf8 "invalid argument " ++ quoted value ++ utf8 " for " ++ quoted (utf8 flag) ++
      utf8 " flag: " ++ error.message
  | argumentCount wanted found =>
    utf8 ("accepts " ++ decimal wanted ++ " arg(s), received " ++ decimal found)

/-- Does what a flag with a value says. -/
def Flag.apply (flag : Flag) (value : Bytes) (options : Options) : Except UsageError Options :=
  let checked {α : Type} (parsed : Except ValueError α) : Except UsageError α :=
    parsed.mapError (.invalidValue value flag.title)
  match flag.effect with
  | .text set => .ok (set value options)
  | .integer set => return set (← checked (parseBased value)) options
  | .truth set => return set (← checked (parseTruth value)) options

/-- The value of a flag that can be left out. -/
def impliedValue : Bytes := utf8 "true"

/-- A command line in parts. -/
structure ParsedLine where
  /-- What the flags say. -/
  options : Options
  /-- The other arguments. -/
  arguments : List Bytes
  deriving DecidableEq, Repr

/-- Reads the letters of one argument. The last letter may take the next argument as its value. -/
def parseLetters (flags : List Flag) : Bytes → List Bytes → Options →
    Except UsageError (Options × List Bytes)
  | [], rest, options => .ok (options, rest)
  | letter :: letters, rest, options =>
    -- Arguments that start like this are meant for a test runner.
    if (utf8 "test.").isPrefixOf (letter :: letters) then .ok (options, rest)
    else match Flag.lettered? flags letter with
    | none => .error (.unknownLetter letter (letter :: letters))
    | some flag =>
      match letters, rest with
      | mark :: first :: more, rest =>
        if mark = ascii '=' then do return (← flag.apply (first :: more) options, rest)
        else if flag.valueOptional then do
          parseLetters flags (mark :: first :: more) rest (← flag.apply impliedValue options)
        else do return (← flag.apply (mark :: first :: more) options, rest)
      | [last], rest =>
        if flag.valueOptional then do
          parseLetters flags [last] rest (← flag.apply impliedValue options)
        else do return (← flag.apply [last] options, rest)
      | [], rest =>
        if flag.valueOptional then do return (← flag.apply impliedValue options, rest)
        else match rest with
        | value :: rest => do return (← flag.apply value options, rest)
        | [] => .error (.missingLetterValue letter (letter :: letters))

/-- Reads one argument with a long name. -/
def parseName (flags : List Flag) (argument : Bytes) (rest : List Bytes) (options : Options) :
    Except UsageError (Options × List Bytes) :=
  let body := argument.drop 2
  let name := body.takeWhile (· ≠ ascii '=')
  let value? := (body.drop name.length).tail?
  if name = [] || name.head? = some (ascii '-') then .error (.badSyntax argument)
  else match Flag.named? flags name with
  | none => .error (.unknownName name)
  | some flag =>
    match value?, rest with
    | some value, rest => do return (← flag.apply value options, rest)
    | none, rest =>
      if flag.valueOptional then do return (← flag.apply impliedValue options, rest)
      else match rest with
      | value :: rest => do return (← flag.apply value options, rest)
      | [] => .error (.missingValue argument)

/-- The mark behind which no argument is a flag. -/
def flagsEnd : Bytes := utf8 "--"

/-- Whether an argument is written like a flag. -/
def looksLikeFlag : Bytes → Bool
  | dash :: _ :: _ => dash = ascii '-'
  | _ => false

/-- Reads arguments one after another; each round takes at least one of them. -/
def parseFrom (flags : List Flag) : Nat → List Bytes → ParsedLine → Except UsageError ParsedLine
  | 0, _, line => .ok line
  | _, [], line => .ok line
  | fuel + 1, argument :: rest, line => do
    if !looksLikeFlag argument then
      parseFrom flags fuel rest { line with arguments := line.arguments ++ [argument] }
    else if argument = flagsEnd then
      return { line with arguments := line.arguments ++ rest }
    else
      let (options, rest) ←
        if flagsEnd.isPrefixOf argument then parseName flags argument rest line.options
        else parseLetters flags argument.tail rest line.options
      parseFrom flags fuel rest { line with options }

/-- Reads a command line; flags and arguments can come in any order. -/
def parse (flags : List Flag) (line : List Bytes) : Except UsageError ParsedLine :=
  parseFrom flags line.length line ⟨.none, []⟩

end TapeMachine.CommandLine
