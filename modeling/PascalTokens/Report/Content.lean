import PascalTokens.Json.Grammar
import PascalTokens.Report.Basic

/-!
# PascalTokens.Report.Content

What the JSON form of a report tells, and how it is found in a JSON value.

Members are found by their names, so their order does not matter.  A member
that is there twice is none, for readers differ on which of the two counts.
-/

namespace PascalTokens

namespace Json

/-- The number, if it is a natural one that is written plainly. -/
def Number.natural? (n : Number) : Option Nat :=
  if n.exponent = 0 ∧ 0 ≤ n.coefficient then some n.coefficient.toNat else none

namespace Value

/-- The values of the members with a name. -/
def under (name : String) : Value → List Value
  | object members => (members.filter (·.1 == name)).map (·.2)
  | _ => []

/-- The value of the one member with a name. -/
def member? (name : String) (v : Value) : Option Value :=
  match v.under name with
  | [w] => some w
  | _ => none

/-- The items of an array. -/
def items? : Value → Option (List Value)
  | array items => some items
  | _ => none

/-- The text of a string. -/
def string? : Value → Option String
  | string s => some s
  | _ => none

/-- The character of a string of one character. -/
def char? : Value → Option Char
  | string s => match s.toList with
    | [c] => some c
    | _ => none
  | _ => none

/-- The text of a string, or none for `null`. -/
def nullable? : Value → Option (Option String)
  | null => some none
  | string s => some (some s)
  | _ => none

/-- A number of 32 bits. -/
def word? : Value → Option UInt32
  | number n => do
    let n ← n.natural?
    if n < UInt32.size then some (UInt32.ofNat n) else none
  | _ => none

/-- A flag that is true where it is there. -/
def flag? (name : String) (v : Value) : Option Bool :=
  match v.under name with
  | [] => some false
  | [bool true] => some true
  | _ => none

end Value

end Json

open Json (Value)

/-- The token of a JSON value. -/
def Token.ofValue? (v : Value) : Option Token := do
  let lexeme ← (← v.member? "lexeme").string?
  let kind ← Kind.ofName? (← (← v.member? "kind").string?)
  some ⟨kind, lexeme⟩

namespace Report

/-- What the JSON form of a report tells of a message. -/
structure Message where
  level : Severity
  /-- The code as it is written. -/
  code : Option String
  text : String
  line : UInt32
  column : UInt32
deriving DecidableEq, Repr

/-- What the JSON form tells of a message. -/
def Message.ofDiagnostic (d : Diagnostic) : Message :=
  ⟨d.severity, d.code.map Code.text, d.message, d.region.line, d.region.column⟩

/-- The message of a JSON value. -/
def Message.ofValue? (v : Value) : Option Message := do
  let level ← Severity.ofName? (← (← v.member? "level").string?)
  let code ← (← v.member? "code").nullable?
  let text ← (← v.member? "message").string?
  let line ← (← v.member? "line").word?
  let column ← (← v.member? "column").word?
  some ⟨level, code, text, line, column⟩

/-- What the JSON form of a report tells. -/
structure Content where
  tokens : List Token
  /-- Whether the end of the input is marked. -/
  endOfInput : Bool
  unrecognized : List Char
  messages : List Message
deriving DecidableEq, Repr

/-- What the JSON form of a report tells, with or without the mark of the end. -/
def content (r : Report) (showEndOfInput : Bool) : Content :=
  ⟨r.tokens, showEndOfInput, r.unrecognized, r.diagnostics.map .ofDiagnostic⟩

/-- What a JSON value tells as the JSON form of a report. -/
def Content.ofValue? (v : Value) : Option Content := do
  let tokens ← (← (← v.member? "tokens").items?).mapM Token.ofValue?
  let endOfInput ← v.flag? "end_of_input"
  let unrecognized ← (← (← v.member? "unrecognized").items?).mapM Value.char?
  let messages ← (← (← v.member? "diagnostics").items?).mapM Message.ofValue?
  some ⟨tokens, endOfInput, unrecognized, messages⟩

end Report

end PascalTokens
