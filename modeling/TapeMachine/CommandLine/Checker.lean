import TapeMachine.CommandLine.Basic

/-! A second, smaller program that only checks: `brfk-verify [-o report.txt] <program.bf>`. -/

namespace TapeMachine.Checker

/-- What the command line of the checker asks for. -/
inductive Request where
  /-- Check the program in a file, and save the report unless the path for it is empty. -/
  | check (path output : Bytes)
  /-- Say how the checker is called. -/
  | help
  deriving DecidableEq, Repr

/-- Why the command line of the checker cannot be understood. -/
inductive UsageError where
  /-- An argument looks like a flag and is none. -/
  | badSyntax (argument : Bytes)
  /-- There is no such flag. -/
  | unknown (name : Bytes)
  /-- A flag has no value. -/
  | missingValue (name : Bytes)
  /-- There is not just one argument. -/
  | argumentCount
  deriving DecidableEq, Repr

/-- The name of the checker. -/
def programName : String := "brfk-verify"

/-- How the flags of the checker are used. -/
def flagHelp : String :=
  "Usage of " ++ programName ++ ":\n  -o string\n    \talso save the report to this file\n"

/-- What a usage error says. A wrong flag is answered with the help of the flags. -/
def UsageError.text : UsageError → Bytes
  | badSyntax argument => utf8 "bad flag syntax: " ++ argument ++ utf8 ("\n" ++ flagHelp)
  | unknown name =>
    utf8 "flag provided but not defined: -" ++ name ++ utf8 ("\n" ++ flagHelp)
  | missingValue name => utf8 "flag needs an argument: -" ++ name ++ utf8 ("\n" ++ flagHelp)
  | argumentCount => utf8 ("usage: " ++ programName ++ " [-o report.txt] <program.bf>\n")

/-- The exit code of a usage error. -/
def UsageError.exitCode : UsageError → Nat
  | argumentCount => 1
  | _ => 2

/-- The one argument behind the flags. -/
def argument (output : Bytes) : List Bytes → Except UsageError Request
  | [path] => .ok (.check path output)
  | _ => .error .argumentCount

/-- Reads the command line. The flags stand in front, with one dash or two. -/
def parseFrom : Nat → Bytes → List Bytes → Except UsageError Request
  | 0, output, line => argument output line
  | _, output, [] => argument output []
  | fuel + 1, output, first :: rest =>
    if !CommandLine.looksLikeFlag first then argument output (first :: rest)
    else if first = CommandLine.flagsEnd then argument output rest
    else
      let body := if CommandLine.flagsEnd.isPrefixOf first then first.drop 2 else first.drop 1
      let name := body.takeWhile (· ≠ ascii '=')
      let value? := (body.drop name.length).tail?
      if name = [] || name.head? = some (ascii '-') then .error (.badSyntax first)
      else if name = utf8 "o" then
        match value?, rest with
        | some value, rest => parseFrom fuel value rest
        | none, value :: rest => parseFrom fuel value rest
        | none, [] => .error (.missingValue name)
      else if name = utf8 "help" || name = utf8 "h" then .ok .help
      else .error (.unknown name)

/-- Reads the command line. -/
def parse (line : List Bytes) : Except UsageError Request := parseFrom line.length [] line

/-- The wording of a failure. -/
def failureText : CommandLine.Failure → Bytes
  | .load (.file error) => utf8 "Failed to read program: " ++ error.message
  | failure => failure.message

/-- Does what a command line says, and returns the exit code. -/
def execute {m : Type → Type} [Monad m] (host : Host m) (line : List Bytes) : m Nat := do
  match parse line with
  | .error error =>
    host.send [.err error.text]
    return error.exitCode
  | .ok .help =>
    host.send [.err (utf8 flagHelp)]
    return 0
  | .ok (.check path output) =>
    match ← (CommandLine.verifyProgram host path output).run with
    | .ok () => return 0
    | .error .lint => return 1
    | .error failure =>
      host.send [.err (failureText failure ++ [newline])]
      return 1

end TapeMachine.Checker
