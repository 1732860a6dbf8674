import PascalTokens.Host
import PascalTokens.LogFilter

/-!
# PascalTokens.Program.Basic

What all commands of the program share: their names, the log that they write
to standard error, and the entry that each of them begins with.
-/

namespace PascalTokens

/-- The commands of the program. -/
inductive CommandName
  /-- Scans a source and reports on it. -/
  | lex
  /-- Lists the reserved words. -/
  | keywords
  /-- Writes a default configuration file. -/
  | init
deriving DecidableEq, Repr

namespace CommandName

/-- All commands. -/
def all : List CommandName := [lex, keywords, init]

/-- The name of a command on the command line. -/
def name : CommandName → String
  | lex => "lex"
  | keywords => "keywords"
  | init => "init"

/-- The command with a given name. -/
def ofName? (s : String) : Option CommandName := all.find? (·.name == s)

end CommandName

namespace Program

variable {m : Type → Type} [Monad m] [Host m]

/-- Writes an entry to the log, if the filter lets it through. -/
def log (filter : LogFilter) (e : LogEvent) : m Unit :=
  if filter.admits e then Host.writeError (e.display ++ "\n") else pure ()

/-- The entry that a command begins with. -/
def announce (filter : LogFilter) (command : CommandName) : m Unit :=
  log filter ⟨.debug, .commands, "running command", [("command", "\"" ++ command.name ++ "\"")]⟩

end Program

end PascalTokens
