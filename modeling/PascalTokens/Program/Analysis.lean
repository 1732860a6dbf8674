import PascalTokens.Program.Basic
import PascalTokens.Report.Format

/-!
# PascalTokens.Program.Analysis

The command that scans a source and reports on it.  Messages about the source
go to standard error, the report to standard output and perhaps to a file.
Faults of the source do not make the command fail; a source without any text
does.
-/

namespace PascalTokens.Program

variable {m : Type → Type} [Monad m] [Host m] [MonadExceptOf Failure m]

/-- What a report is asked for. -/
structure AnalysisRequest where
  /-- The path of the source, perhaps after an `@`; `-` is standard input. -/
  input : String
  /-- A file that the report is also written to. -/
  output : Option String := none
  format : ReportFormat := .text
  showEndOfInput : Bool := false
  /-- Whether messages are for a terminal with colours. -/
  color : Bool := false
  /-- Whether the report is kept from standard output. -/
  quiet : Bool := false
deriving DecidableEq, Repr

/-- The numbers of what an analysis found. -/
structure Summary where
  tokens : Nat
  unrecognized : Nat
  errors : Nat
  warnings : Nat
deriving DecidableEq, Repr

/-- The numbers of a report. -/
def Summary.ofReport (r : Report) : Summary :=
  ⟨r.tokens.length, r.unrecognized.length, r.errorCount, r.warningCount⟩

/-- The numbers as they are logged. -/
def Summary.fields (s : Summary) : List (String × String) :=
  [("tokens", toString s.tokens), ("unrecognized", toString s.unrecognized),
    ("errors", toString s.errors), ("warnings", toString s.warnings)]

/-- The input that stands for standard input. -/
def standardInput : String := "-"

/-- The path in an input, without an `@` in front. -/
def inputPath (input : String) : String :=
  match input.toList with
  | '@' :: path => String.ofList path
  | _ => input

/-- What messages call a source, and its text. -/
def readSource (input : String) : m (String × String) := do
  if input = standardInput then
    let bytes ← Host.readInput
    return ("<stdin>", ← Host.orFail .input (Host.decode bytes))
  else
    let path := inputPath input
    return (path, ← Host.readText path)

/-- Scans a source, reports on it, and tells what was found. -/
def analyze (filter : LogFilter) (r : AnalysisRequest) : m Summary := do
  announce filter .lex
  let (origin, source) ← readSource r.input
  if source.isEmpty then throw (.emptySource origin)
  log filter ⟨.info, .lexCommand, "analyzing",
    [("source", origin), ("bytes", toString source.utf8ByteSize)]⟩
  let scan := (Scan.Scanner.ofSource source).rest
  for e in scan.2.events do
    log filter e.logEvent
  let report := Report.ofScan scan
  for d in report.diagnostics do
    Host.writeError (d.render source origin r.color)
  let rendered := report.render r.format r.showEndOfInput
  if !r.quiet then Host.writeOutput rendered
  if let some path := r.output then
    Host.writeText path rendered
    log filter ⟨.info, .lexCommand, "report saved", [("path", path)]⟩
  let summary := Summary.ofReport report
  log filter ⟨.info, .lexCommand, "analysis finished", summary.fields⟩
  return summary

end PascalTokens.Program
