import PascalTokens.Json.Basic
import PascalTokens.Report.Basic

/-!
# PascalTokens.Report.Format

The two written forms of a report.

The text form lists the tokens, one a line, and then the skipped characters
under a heading between rules.  The JSON form is an object with the tokens, the
skipped characters and the messages.  Either can end the tokens with a mark
for the end of the input.
-/

namespace PascalTokens

/-- How a report is written. -/
inductive ReportFormat
  /-- One line a token, then the skipped characters. -/
  | text
  /-- A JSON document. -/
  | json
deriving DecidableEq, Repr

namespace ReportFormat

/-- The name of a format. -/
def name : ReportFormat → String
  | text => "text"
  | json => "json"

/-- The format with a given name. -/
def ofName? (s : String) : Option ReportFormat := [text, json].find? (·.name == s)

/-- A format is known by its name. -/
@[simp] theorem ofName?_name (f : ReportFormat) : ofName? f.name = some f := by cases f <;> decide

end ReportFormat

namespace Report

/-- The line that shows the end of the input in the text form. -/
def endOfInputLine : String := "<EOF>"

/-- The rule above and below the heading of the skipped characters. -/
def rule : String := Text.repeated 40 '='

/-- The heading of the skipped characters, between its rules. -/
def heading : String := rule ++ "\n       UNRECOGNIZED CHARACTERS\n" ++ rule ++ "\n"

/-- The skipped characters of the text form: each in quotes, and their number. -/
def unrecognizedLines (unrecognized : List Char) : String :=
  if unrecognized.isEmpty then "No unrecognized characters found.\n"
  else
    let listed := unrecognized.map fun c => "'" ++ String.singleton c ++ "'"
    "Characters found: " ++ ", ".intercalate listed ++ "\n" ++
      "Total unrecognized characters: " ++ toString unrecognized.length ++ "\n"

/-- The tokens of the text form, and the mark of the end if it is shown. -/
def tokenLines (tokens : List Token) (showEndOfInput : Bool) : String :=
  String.join (tokens.map fun t => t.display ++ "\n") ++
    if showEndOfInput then endOfInputLine ++ "\n" else ""

/-- The text form of a report. -/
def toText (r : Report) (showEndOfInput : Bool) : String :=
  tokenLines r.tokens showEndOfInput ++ "\n" ++ heading ++ unrecognizedLines r.unrecognized ++
    rule ++ "\n"

/-- A token in the JSON form. -/
def tokenJson (t : Token) : Json :=
  .object [("lexeme", .string t.lexeme), ("kind", .string t.kind.name)]

/-- A message in the JSON form. -/
def diagnosticJson (d : Diagnostic) : Json :=
  .object [
    ("level", .string d.severity.name),
    ("code", match d.code with | some code => .string code.text | none => .null),
    ("message", .string d.message),
    ("line", .number d.region.line.toNat),
    ("column", .number d.region.column.toNat)]

/-- A report as a JSON value.  The mark of the end is there only if it is shown. -/
def json (r : Report) (showEndOfInput : Bool) : Json :=
  .object (
    [("tokens", .array (r.tokens.map tokenJson))] ++
    (if showEndOfInput then [("end_of_input", .bool true)] else []) ++
    [("unrecognized", .array (r.unrecognized.map fun c => .string (String.singleton c))),
      ("diagnostics", .array (r.diagnostics.map diagnosticJson))])

/-- The JSON form of a report. -/
def toJson (r : Report) (showEndOfInput : Bool) : String := (r.json showEndOfInput).pretty ++ "\n"

/-- A report in a format. -/
def render (r : Report) (format : ReportFormat) (showEndOfInput : Bool) : String :=
  match format with
  | .text => r.toText showEndOfInput
  | .json => r.toJson showEndOfInput

end Report

end PascalTokens
