import PascalTokens.Program.Basic
import PascalTokens.Report.Format

/-!
# PascalTokens.CommandLine.Switch

The switches of the command line.  A switch has a long name, most have a short
one of a single character, and some take a value.  Three switches are known
everywhere and have an environment variable each, that counts where they are
not given.
-/

namespace PascalTokens.CommandLine

/-- A switch. -/
inductive Switch
  | verbose
  | config
  | noColor
  | output
  | format
  | showEndOfInput
  | quiet
  | path
  | force
  | help
  | version
deriving DecidableEq, Repr

/-- What a switch may be given. -/
inductive Value
  /-- Nothing: a switch that is there or not. -/
  | nothing
  /-- A path, which is not empty. -/
  | path
  /-- The name of a report format. -/
  | format
deriving DecidableEq, Repr

namespace Switch

/-- The name after two dashes. -/
def long : Switch → String
  | verbose => "verbose"
  | config => "config"
  | noColor => "no-color"
  | output => "output"
  | format => "format"
  | showEndOfInput => "show-end-of-input"
  | quiet => "quiet"
  | path => "path"
  | force => "force"
  | help => "help"
  | version => "version"

/-- The name after one dash. -/
def short? : Switch → Option Char
  | verbose => some 'v'
  | config => some 'c'
  | noColor => none
  | output => some 'o'
  | format => some 'F'
  | showEndOfInput => none
  | quiet => some 'q'
  | path => some 'p'
  | force => some 'f'
  | help => some 'h'
  | version => some 'V'

/-- What a switch may be given. -/
def value : Switch → Value
  | config | output | path => .path
  | format => .format
  | _ => .nothing

/-- Whether a value may be given to a switch that takes one. -/
def allows (s : Switch) (text : String) : Bool :=
  match s.value with
  | .nothing => true
  | .path => !text.isEmpty
  | .format => (ReportFormat.ofName? text).isSome

/-- The switches that have an environment variable, and its name. -/
def variableNames : List (Switch × String) :=
  [(verbose, "PASCT_VERBOSE"), (config, "PASCT_CONFIG"), (noColor, "PASCT_NO_COLOR")]

/-- Whether a switch may have a text in its environment variable. -/
def allowsVariable (s : Switch) (text : String) : Bool :=
  match s.value with
  | .nothing => text == "true" || text == "false"
  | _ => s.allows text

/-- The switches that are known everywhere. -/
def everywhere : List Switch := [verbose, config, noColor, help, version]

/-- The switches that are known before the command and after it. -/
def known : Option CommandName → List Switch
  | none | some .keywords => everywhere
  | some .lex => everywhere ++ [output, format, showEndOfInput, quiet]
  | some .init => everywhere ++ [path, force]

/-- A switch as it is written in messages. -/
def display (s : Switch) : String := "--" ++ s.long

end Switch

end PascalTokens.CommandLine
