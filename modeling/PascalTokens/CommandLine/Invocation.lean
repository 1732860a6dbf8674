import PascalTokens.CommandLine.Arguments
import PascalTokens.Config
import PascalTokens.Program.Analysis
import PascalTokens.Program.Setup

/-!
# PascalTokens.CommandLine.Invocation

What a command line asks for: a command and what it needs.  A switch that is
known everywhere counts more after the command than before it, and more on the
command line than in its environment variable; where it is given at neither
place the variable has to hold an allowed value.  What is not given for a
report is taken from the configuration.
-/

namespace PascalTokens.CommandLine

/-- What a command needs that is given after its name. -/
inductive Task
  /-- Scans a source; what is not given is left open. -/
  | lex (input : String) (output : Option String) (format : Option ReportFormat)
    (showEndOfInput : Bool) (quiet : Bool)
  | keywords
  | init (request : Program.SetupRequest)
deriving DecidableEq, Repr

/-- What a command line asks for. -/
structure Invocation where
  verbose : Bool
  /-- The configuration file, if one is named. -/
  config : Option String
  task : Task
deriving DecidableEq, Repr

/-- The values of the environment variables of switches, where they are set. -/
abbrev Environment := List (Switch × String)

/-- Checks the environment variables of the switches that are not given in
some arguments. -/
def Environment.check (e : Environment) (a : Arguments) : Except Stop Unit :=
  match e.find? fun (s, text) => !a.has s && !s.allowsVariable text with
  | some (s, text) => .error (.wrong (.badVariable ((Switch.variableNames.lookup s).getD "") text))
  | none => .ok ()

/-- What a command needs, from the arguments after it. -/
def Task.ofArguments (command : CommandName) (a : Arguments) : Except Stop Task :=
  match command with
  | .lex =>
    match a.operands with
    | [] => .error (.wrong .missingInput)
    | input :: _ =>
      .ok (.lex input (a.value? .output) ((a.value? .format).bind ReportFormat.ofName?)
        (a.has .showEndOfInput) (a.has .quiet))
  | .keywords => .ok .keywords
  | .init => .ok (.init { directory := a.value? .path, force := a.has .force })

/-- What is asked for with some arguments before the command and some after
it. -/
def Invocation.assemble (before after : Arguments) (e : Environment) (task : Task) :
    Invocation where
  verbose := before.has .verbose || after.has .verbose || e.lookup .verbose == some "true"
  config := ((after.value? .config).or (before.value? .config)).or (e.lookup .config)
  task := task

/-- What a command line asks for. -/
def Invocation.read (arguments : List String) (e : Environment) : Except Stop Invocation := do
  let (before, command, rest) ← Arguments.readCommand {} arguments
  let after ← Arguments.read {} command rest
  e.check after
  let task ← Task.ofArguments command after
  let before ← before.settle
  e.check before
  return .assemble before after e task

/-- What a report is asked for, with the settings for what is left open. -/
def analysisRequest (settings : ReportConfig) (input : String) (output : Option String)
    (format : Option ReportFormat) (showEndOfInput quiet : Bool) : Program.AnalysisRequest where
  input := input
  output := output.or settings.output
  format := format.getD settings.format
  showEndOfInput := showEndOfInput || settings.showEndOfInput
  quiet := quiet

end PascalTokens.CommandLine
