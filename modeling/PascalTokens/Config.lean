import PascalTokens.Report.Format
import PascalTokens.Toml.Document

/-!
# PascalTokens.Config

The settings of the program, and their form as a TOML document.

Every setting may be left out, and keys that are no settings are ignored; but
a setting of the wrong type is no configuration.  The table `report` may also
be written as an array of its settings in order, and a setting with few values
as a table with the value for its only key and nothing under it.
-/

namespace PascalTokens

/-- The settings for reports. -/
structure ReportConfig where
  /-- The format of a report, unless another is asked for. -/
  format : ReportFormat := .text
  /-- Whether the end of the input is marked. -/
  showEndOfInput : Bool := false
  /-- A file that the report is written to, unless another is named. -/
  output : Option String := none
deriving DecidableEq, Repr

/-- The settings of the program. -/
structure Config where
  /-- Whether the log is verbose. -/
  verbose : Bool := false
  report : ReportConfig := {}
deriving DecidableEq, Repr

/-! ## reading -/

/-- A truth value. -/
def Toml.Item.boolean? : Item → Option Bool
  | boolean b => some b
  | _ => none

/-- A string. -/
def Toml.Item.string? : Item → Option String
  | string s => some s
  | _ => none

/-- Whether nothing is under an item. -/
def Toml.Item.isVoid : Item → Bool
  | array items => items.isEmpty
  | table _ entries => entries.isEmpty
  | _ => false

/-- The name that an item stands for where one of a few is wanted. -/
def Toml.Item.choice? : Item → Option String
  | string s => some s
  | table _ [(name, item)] => if item.isVoid then some name else none
  | _ => none

/-- A setting that may be left out: its default if it is not there. -/
def Toml.setting (item : Option Toml.Item) (read : Toml.Item → Option α) (default : α) : Option α :=
  match item with
  | some item => read item
  | none => some default

namespace ReportConfig

/-- The settings for reports, from the items given for them. -/
def ofItems? (format showEndOfInput output : Option Toml.Item) : Option ReportConfig := do
  let format ← Toml.setting format (fun i => i.choice?.bind ReportFormat.ofName?) .text
  let showEndOfInput ← Toml.setting showEndOfInput Toml.Item.boolean? false
  let output ← Toml.setting output (fun i => i.string?.map some) none
  some { format, showEndOfInput, output }

/-- The settings for reports, from a table by its keys. -/
def ofEntries? (entries : Toml.Entries) : Option ReportConfig :=
  ofItems? (entries.lookup "format") (entries.lookup "show_end_of_input") (entries.lookup "output")

/-- The settings for reports, from an array by place. -/
def ofArray? (items : List Toml.Item) : Option ReportConfig :=
  ofItems? items[0]? items[1]? items[2]?

/-- The settings for reports, from the item under `report`.  A date or time has
none of them. -/
def ofItem? : Toml.Item → Option ReportConfig
  | .table _ entries => ofEntries? entries
  | .array items => ofArray? items
  | .tables elements => ofArray? (elements.map (.table .header))
  | .moment => some {}
  | _ => none

end ReportConfig

namespace Config

/-- The settings in a document, from its entries. -/
def ofEntries? (entries : Toml.Entries) : Option Config := do
  let verbose ← Toml.setting (entries.lookup "verbose") Toml.Item.boolean? false
  let report ← Toml.setting (entries.lookup "report") ReportConfig.ofItem? {}
  some { verbose, report }

/-- The settings in a document; `none` if it is no TOML or a setting has the
wrong type. -/
def parse (document : String) : Option Config := (Toml.parse document).bind ofEntries?

/-! ## writing -/

/-- The line of a setting. -/
def settingLine (key value : String) : String := key ++ " = " ++ value ++ "\n"

/-- A truth value in a document. -/
def booleanText (b : Bool) : String := if b then "true" else "false"

/-- The settings as a document. -/
def document (c : Config) : String :=
  settingLine "verbose" (booleanText c.verbose) ++ "\n[report]\n" ++
    settingLine "format" (Toml.quote c.report.format.name) ++
    settingLine "show_end_of_input" (booleanText c.report.showEndOfInput) ++
    match c.report.output with
    | some path => settingLine "output" (Toml.quote path)
    | none => ""

end Config

end PascalTokens
