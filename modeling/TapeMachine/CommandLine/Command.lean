import TapeMachine.CommandLine.Flag

/-! The commands of the command line, their help, and how one of them is chosen. -/

namespace TapeMachine.CommandLine

/-- A command. -/
inductive Subcommand where
  /-- Run a program. -/
  | run
  /-- Check a program. -/
  | verify
  /-- Explain a command. -/
  | help
  deriving DecidableEq, Repr

/-- The name of the program itself. -/
def programName : String := "brfk"

namespace Subcommand

/-- The name of a command. -/
def name : Subcommand → String
  | run => programName
  | verify => "verify"
  | help => "help"

/-- The flags that only this command takes. -/
def ownFlags (command : Subcommand) : List Flag :=
  match command with
  | verify => [.help command.name, .output]
  | command => [.help command.name]

/-- All flags that a command takes. -/
def flags (command : Subcommand) : List Flag := command.ownFlags ++ Flag.shared

end Subcommand

/-- Whether the next argument is the value of this one, as far as one can tell before the command is
chosen. -/
def takesNext (flags : List Flag) (argument : Bytes) : Bool :=
  if argument.contains (ascii '=') then false
  else match argument with
  | one :: two :: rest =>
    if one ≠ ascii '-' then false
    else if two = ascii '-' then
      !((Flag.named? flags rest).map Flag.valueOptional).getD false
    else rest = [] && !((Flag.lettered? flags two).map Flag.valueOptional).getD false
  | _ => false

/-- Whether an argument starts like a flag. -/
def startsLikeFlag (argument : Bytes) : Bool := argument.head? = some (ascii '-')

/-- The first argument that is neither a flag nor the value of one. -/
def firstWord? (flags : List Flag) : List Bytes → Option Bytes
  | [] => none
  | argument :: rest =>
    if argument = flagsEnd then none
    else if takesNext flags argument then
      match rest with
      | _ :: next :: rest => firstWord? flags (next :: rest)
      | _ => none
    else if argument ≠ [] && !startsLikeFlag argument then some argument
    else firstWord? flags rest

/-- The arguments without the first that is a given word and not the value of a flag. -/
def withoutWord (flags : List Flag) (word : Bytes) : List Bytes → List Bytes
  | [] => []
  | argument :: rest =>
    if argument = flagsEnd then argument :: rest
    else if takesNext flags argument then
      match rest with
      | value :: rest => argument :: value :: withoutWord flags word rest
      | [] => [argument]
    else if argument = word then rest
    else argument :: withoutWord flags word rest

/-- The command with a name. -/
def Subcommand.named? (name : Bytes) : Option Subcommand :=
  [Subcommand.verify, .help].find? fun command => utf8 command.name = name

/-- The command of a command line, and the arguments without its name. -/
def select (line : List Bytes) : Subcommand × List Bytes :=
  match firstWord? Flag.shared line with
  | none => (.run, line)
  | some word =>
    match Subcommand.named? word with
    | none => (.run, line)
    | some command => (command, withoutWord Flag.shared word line)

/-! Help -/

/-- The name of the value of a flag in its help. -/
def Flag.valueName (flag : Flag) : String :=
  match flag.effect with
  | .text _ => " string"
  | .integer _ => " int"
  | .truth _ => ""

/-- The left half of the help of a flag. -/
def Flag.usage (flag : Flag) : String :=
  (match flag.letter with
    | some letter => "  -" ++ letter.toString ++ ", --"
    | none => "      --") ++ flag.name ++ flag.valueName

/-- The help of flags in two columns, in the order of their names. -/
def flagLines (flags : List Flag) : List String :=
  let sorted := flags.mergeSort fun one other => one.name ≤ other.name
  let width := (sorted.map fun flag => flag.usage.length).foldl max 0
  sorted.map fun flag =>
    flag.usage ++ String.ofList (List.replicate (width + 3 - flag.usage.length) ' ') ++
      flag.purpose

/-- What a command is for. -/
def Subcommand.purpose : Subcommand → String
  | run => "Run a program, stopping in the debugger at every '!'"
  | verify => "Check a program for mistakes without running it"
  | help => "Help about any command"

/-- What a command is for, at more length where there is more to say. -/
def Subcommand.description : Subcommand → List String
  | help =>
    ["Help provides help for any command in the application.",
     "Simply type " ++ programName ++ " help [path to command] for full details."]
  | command => [command.purpose]

/-- How a command is called. -/
def Subcommand.usage : Subcommand → List String
  | run => [programName ++ " [flags] <program>", programName ++ " [command]"]
  | verify => [programName ++ " verify <program> [flags]"]
  | help => [programName ++ " help [command] [flags]"]

/-- The commands that the program offers, with what they are for. -/
def offered : List (String × String) :=
  [("completion", "Generate the autocompletion script for the specified shell"),
   (Subcommand.help.name, Subcommand.help.purpose),
   (Subcommand.verify.name, Subcommand.verify.purpose)]

/-- The list of the commands in two columns. -/
def offeredLines : List String :=
  let width := (offered.map fun (name, _) => name.length).foldl max 11
  offered.map fun (name, purpose) =>
    "  " ++ name ++ String.ofList (List.replicate (width + 1 - name.length) ' ') ++ purpose

/-- The help of a command. -/
def Subcommand.helpLines (command : Subcommand) : List String :=
  let start := command.description ++ ["", "Usage:"] ++ command.usage.map ("  " ++ ·)
  match command with
  | run =>
    start ++ ["", "Available Commands:"] ++ offeredLines ++
      ["", "Flags:"] ++ flagLines command.flags ++
      ["", "Use \"" ++ programName ++ " [command] --help\" for more information about a command."]
  | command =>
    start ++ ["", "Flags:"] ++ flagLines command.ownFlags ++
      ["", "Global Flags:"] ++ flagLines Flag.shared

/-- The help of a command as a text. -/
def Subcommand.helpText (command : Subcommand) : Bytes :=
  utf8 (String.join (command.helpLines.map (· ++ "\n")))

end TapeMachine.CommandLine
