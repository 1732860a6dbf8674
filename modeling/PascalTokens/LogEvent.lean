import PascalTokens.Text.Padding

/-!
# PascalTokens.LogEvent

Entries of the program's log: how loud they are, the part of the program they
come from, a message, and named values that go with it.  An entry is written
on one line, its level right-aligned to five columns.
-/

namespace PascalTokens

/-- How loud a log entry is, the loudest first. -/
inductive LogLevel
  | error
  | warn
  | info
  | debug
  | trace
deriving DecidableEq, Repr

namespace LogLevel

/-- The name of a level in the log. -/
def name : LogLevel → String
  | error => "ERROR"
  | warn => "WARN"
  | info => "INFO"
  | debug => "DEBUG"
  | trace => "TRACE"

/-- How much has to be let through for a level to be seen; nothing is 0. -/
def rank : LogLevel → Nat
  | error => 1
  | warn => 2
  | info => 3
  | debug => 4
  | trace => 5

end LogLevel

/-- The part of the program that a log entry comes from. -/
inductive LogSource
  | scanner
  | comments
  | commands
  | lexCommand
  | initCommand
deriving DecidableEq, Repr

/-- The name under which a filter selects the entries of a part. -/
def LogSource.path : LogSource → String
  | scanner => "pasc_lex::lexer::core"
  | comments => "pasc_lex::lexer::comment"
  | commands => "pasct::commands::traits"
  | lexCommand => "pasct::commands::lex"
  | initCommand => "pasct::commands::init"

/-- An entry of the log. -/
structure LogEvent where
  level : LogLevel
  source : LogSource
  message : String
  /-- Named values, as they are written. -/
  fields : List (String × String) := []
deriving DecidableEq, Repr

/-- The names under which an entry has something: its message and the named
values. -/
def LogEvent.fieldNames (e : LogEvent) : List String := "message" :: e.fields.map Prod.fst

/-- The line of an entry, without its line feed. -/
def LogEvent.display (e : LogEvent) : String :=
  let values := e.fields.map fun (name, value) => " " ++ name ++ "=" ++ value
  Text.alignRight 5 ' ' e.level.name ++ " " ++ e.message ++ String.join values

end PascalTokens
