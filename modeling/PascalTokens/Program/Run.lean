import PascalTokens.CommandLine.Invocation
import PascalTokens.Config.Store
import PascalTokens.LogFilter.Reading

/-!
# PascalTokens.Program.Run

A whole run of the program: the command line, the configuration, the log and
the command.  The run ends with 0 if the command succeeded or there was only
something to tell, with 1 if something failed, and with 2 if the command line
is wrong.
-/

namespace PascalTokens.Program

open CommandLine

/-! ## messages about failures -/

/-- The width of the numbers of causes. -/
def numberWidth : Nat := 5

/-- A text with every line after the first indented. -/
def indented (width : Nat) (text : String) : String :=
  let lines := (Text.pieces '\n' text.toList).map String.ofList
  ("\n" ++ Text.repeated width ' ').intercalate lines

/-- A cause after its number. -/
def numberedCause (number : Nat) (text : String) : String :=
  "\n" ++ Text.alignRight numberWidth ' ' (toString number) ++ ": " ++
    indented (numberWidth + 2) text

/-- The causes of a failure, numbered if there are several. -/
def causeLines : List String → String
  | [] => ""
  | [cause] => "\n    " ++ indented 4 cause
  | causes => String.join (causes.mapIdx numberedCause)

/-- What is written when something failed: a message, then the causes behind
it. -/
def failureText : List String → String
  | [] => ""
  | [message] => "Error: " ++ message ++ "\n"
  | message :: causes => "Error: " ++ message ++ "\n\nCaused by:" ++ causeLines causes ++ "\n"

/-! ## what is told without running a command -/

/-- The name of the program. -/
def programName : String := "pasct"

/-- The version of the program. -/
def programVersion : String := "0.1.0"

/-- The line with the version, which names the command that was asked. -/
def versionLine (command : Option CommandName) : String :=
  let suffix := match command with
    | some command => "-" ++ command.name
    | none => ""
  programName ++ suffix ++ " " ++ programVersion ++ "\n"

/-- How the program is used. -/
def usage : String :=
  "Usage: " ++ programName ++ " [--verbose] [--config PATH] [--no-color] COMMAND\n\n" ++
  "Commands:\n" ++
  "  lex INPUT [--output PATH] [--format text|json] [--show-end-of-input] [--quiet]\n" ++
  "  keywords\n" ++
  "  init [--path PATH] [--force]\n"

/-! ## running -/

section Commands

variable {m : Type → Type} [Monad m] [Host m] [MonadExceptOf Failure m]

/-- The configuration for a run. -/
def loadConfig (path : Option String) : m Config :=
  match path with
  | some path => Config.loadFrom path
  | none => Config.load

/-- Lists the reserved words. -/
def listWords (filter : LogFilter) : m Unit := do
  announce filter .keywords
  Host.writeOutput reservedListing

/-- Runs a command. -/
def execute (filter : LogFilter) (config : Config) (task : Task) : m Unit :=
  match task with
  | .lex input output format showEndOfInput quiet => do
    let _ ← analyze filter
      (analysisRequest config.report input output format showEndOfInput quiet)
  | .keywords => listWords filter
  | .init request => do
    let path ← setUp filter request
    Host.writeOutput ("Wrote " ++ path ++ "\n")

end Commands

/-- How a run ends. -/
inductive ExitStatus
  | success
  | failed
  | wrongUsage
deriving DecidableEq, Repr

/-- The number of an exit status. -/
def ExitStatus.code : ExitStatus → Nat
  | success => 0
  | failed => 1
  | wrongUsage => 2

variable {m : Type → Type} [Monad m] [Host m]

/-- Writes what stopped a run, with the messages of `context` in front. -/
def fail (context : List String) (f : Failure) : m ExitStatus := do
  Host.writeError (failureText (context ++ f.messages))
  return .failed

/-- What is said when the configuration cannot be loaded. -/
def loadContext : String := "failed to load configuration"

/-- Runs what a command line asks for. -/
def invoke (i : Invocation) : m ExitStatus := do
  match ← (loadConfig i.config : ExceptT Failure m Config).run with
  | .error f => fail [loadContext] f
  | .ok config =>
    let filter := LogFilter.choose (← Host.lookupVariable "RUST_LOG") (i.verbose || config.verbose)
    match ← (execute filter config i.task : ExceptT Failure m Unit).run with
    | .error f => fail [] f
    | .ok () => return .success

/-- The values of the environment variables of switches. -/
def readEnvironment : m Environment :=
  Switch.variableNames.filterMapM fun (s, name) => do
    return (← Host.lookupVariable name).map fun value => (s, value)

/-- A whole run of the program with some arguments. -/
def run (arguments : List String) : m ExitStatus := do
  match Invocation.read arguments (← readEnvironment) with
  | .ok i => invoke i
  | .error (.version command) =>
    Host.writeOutput (versionLine command)
    return .success
  | .error (.help _) =>
    Host.writeOutput usage
    return .success
  | .error (.wrong e) =>
    Host.writeError ("error: " ++ e.message ++ "\n\n" ++ usage)
    return .wrongUsage

end PascalTokens.Program
