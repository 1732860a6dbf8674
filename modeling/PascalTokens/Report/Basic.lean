import PascalTokens.Excerpt
import PascalTokens.Scan.Scanner

/-!
# PascalTokens.Report.Basic

A report is all that one scan of a source gives: the tokens, the characters
that were skipped, and the messages about the source.  Messages are rendered
each on its own, with the source line they are about.
-/

namespace PascalTokens

/-- What one scan of a source gives. -/
structure Report where
  /-- The tokens in source order, those of incomplete literals included. -/
  tokens : List Token
  /-- The skipped characters, in the order in which they were found. -/
  unrecognized : List Char
  /-- The messages, in the order in which they came. -/
  diagnostics : List Diagnostic
deriving DecidableEq, Repr

namespace Report

/-- The report that a scan gives, from its tokens and the scanner at the end. -/
def ofScan (scan : List Token × Scan.Scanner) : Report :=
  ⟨scan.1, scan.2.unrecognized.toList, scan.2.log.toList⟩

/-- The report on a source. -/
def analyze (source : String) : Report := ofScan (Scan.Scanner.ofSource source).rest

/-- Number of errors in the report. -/
def errorCount (r : Report) : Nat := r.diagnostics.countP (·.severity.isError)

/-- Number of warnings in the report. -/
def warningCount (r : Report) : Nat := r.diagnostics.countP (·.severity.isWarning)

end Report

/-- The severity as it heads a rendered message, on a terminal in bold and in
its colour. -/
def Severity.heading (s : Severity) (color : Bool) : String :=
  if color then "\x1b[1;" ++ s.colorCode ++ "m" ++ s.name ++ "\x1b[0m" else s.name

/-- The rows of an excerpt under a blank row of its gutter, or nothing. -/
def Excerpt.rows : Option Excerpt → String
  | some e => "    |\n" ++ e.format ++ "\n"
  | none => ""

/-- A message with its place, the source line there, and its notes and
suggestions.  `origin` names the source. -/
def Diagnostic.render (d : Diagnostic) (source origin : String) (color : Bool) : String :=
  d.severity.heading color ++ d.bracketedCode ++ ": " ++ d.message ++ "\n" ++
    "  --> " ++ origin ++ ":" ++ d.region.display ++ "\n" ++
    Excerpt.rows (Excerpt.ofRegion? source.toList d.region) ++
    String.join (d.notes.map fun note => "    = note: " ++ note ++ "\n") ++
    String.join (d.helps.map fun help => "    = help: " ++ help ++ "\n")

end PascalTokens
