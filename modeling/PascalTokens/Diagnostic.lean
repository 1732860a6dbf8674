import PascalTokens.Region
import PascalTokens.Text.Padding

/-!
# PascalTokens.Diagnostic

Messages about a source: how severe they are, the code they are known by, the
region they are about, and notes and suggestions that go with them.  A
`DiagnosticLog` keeps the messages of a run in the order in which they came.
-/

namespace PascalTokens

/-- How severe a message is, the severest first. -/
inductive Severity
  /-- Malformed input, of which a part was used. -/
  | error
  /-- Suspicious input that was skipped. -/
  | warning
  /-- Something to know about another message. -/
  | note
  /-- A suggestion. -/
  | help
deriving DecidableEq, Repr

namespace Severity

/-- The word shown for a severity. -/
def name : Severity → String
  | error => "error"
  | warning => "warning"
  | note => "note"
  | help => "help"

/-- The severity with a given name. -/
def ofName? (s : String) : Option Severity := [error, warning, note, help].find? (·.name == s)

/-- The terminal colour of a severity: red, yellow, cyan and green. -/
def colorCode : Severity → String
  | error => "31"
  | warning => "33"
  | note => "36"
  | help => "32"

/-- Place in the order of severities, the severest lowest. -/
def rank : Severity → Nat
  | error => 0
  | warning => 1
  | note => 2
  | help => 3

instance : Ord Severity := ⟨fun a b => compare a.rank b.rank⟩

/-- Whether the severity counts as an error. -/
def isError (s : Severity) : Bool := s == error

/-- Whether the severity counts as a warning. -/
def isWarning (s : Severity) : Bool := s == warning

end Severity

/-- The code of a message: letters for its family, and a number. -/
structure Code where
  family : String
  number : Nat
deriving DecidableEq, Repr

namespace Code

/-- The family and the number, in at least four digits. -/
def text (c : Code) : String := c.family ++ Text.alignRight 4 '0' (toString c.number)

instance : ToString Code := ⟨text⟩

/-- A code as it is shown to a programmer. -/
def inspect (c : Code) : String := "DiagnosticCode(" ++ c.text ++ ")"

/-- A character that starts no token. -/
def unrecognizedChar : Code := ⟨"W", 1001⟩

/-- A character literal without its closing quote. -/
def openChar : Code := ⟨"E", 1002⟩

/-- A string literal without its closing quote. -/
def openString : Code := ⟨"E", 1003⟩

/-- An exponent without digits. -/
def bareExponent : Code := ⟨"E", 1004⟩

end Code

/-- A message about a source. -/
structure Diagnostic where
  severity : Severity
  message : String
  region : Region := .nowhere
  code : Option Code := none
  notes : List String := []
  helps : List String := []
deriving DecidableEq, Repr

namespace Diagnostic

/-- The same message under a code. -/
def withCode (d : Diagnostic) (code : Code) : Diagnostic := { d with code := some code }

/-- The same message with one more note. -/
def withNote (d : Diagnostic) (note : String) : Diagnostic := { d with notes := d.notes ++ [note] }

/-- The same message with one more suggestion. -/
def withHelp (d : Diagnostic) (help : String) : Diagnostic := { d with helps := d.helps ++ [help] }

/-- The code in brackets, or nothing. -/
def bracketedCode (d : Diagnostic) : String :=
  match d.code with
  | some code => "[" ++ code.text ++ "]"
  | none => ""

/-- The message on one line.  A message about no place shows none. -/
def display (d : Diagnostic) : String :=
  let place := if d.region = .nowhere then "" else " at " ++ d.region.display
  d.severity.name ++ d.bracketedCode ++ ": " ++ d.message ++ place

instance : ToString Diagnostic := ⟨display⟩

end Diagnostic

/-- The messages of a run, in the order in which they came. -/
structure DiagnosticLog where
  messages : Array Diagnostic := #[]

namespace DiagnosticLog

/-- The log with one more message. -/
def emit (log : DiagnosticLog) (d : Diagnostic) : DiagnosticLog := ⟨log.messages.push d⟩

/-- The messages as a list. -/
def toList (log : DiagnosticLog) : List Diagnostic := log.messages.toList

/-- A message that is emitted comes after those that are there. -/
@[simp] theorem toList_emit (log : DiagnosticLog) (d : Diagnostic) :
    (log.emit d).toList = log.toList ++ [d] := by
  simp [emit, toList]

/-- Number of errors. -/
def errorCount (log : DiagnosticLog) : Nat := log.toList.countP (·.severity.isError)

/-- Number of warnings. -/
def warningCount (log : DiagnosticLog) : Nat := log.toList.countP (·.severity.isWarning)

/-- Whether an error was emitted. -/
def hasErrors (log : DiagnosticLog) : Bool := log.toList.any (·.severity.isError)

end DiagnosticLog

end PascalTokens
