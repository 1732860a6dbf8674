import PascalTokens.Reader
import PascalTokens.Scan.Item

/-!
# PascalTokens.Scan.Stepwise

The items of a source as a reader comes to them.  A reader looks at the next
character, or at the one after it, before each step; past the end it sees NUL.
What has been read is cut out of the source at the end, by its byte offsets, so
each function here gives nothing if such a cut falls inside a character.

`readItem?` passes over blanks and reads one item.  That it reads what
`Item.next?` finds, and that no cut ever fails, is proved in
`PascalTokens.Proofs.Stepwise`.
-/

namespace PascalTokens.Scan.Stepwise

/-- A token that a reader took, what is wrong with it, and the reader after it. -/
structure Taken where
  token : Token
  fault : Option Fault := none
  reader : Reader

/-- Reads a word. -/
def word? (r : Reader) : Option Taken := do
  let stop := r.advanceWhile isWordPart
  let lexeme := String.ofList (← stop.since? r.position.offset)
  return { token := ⟨.ofWord lexeme, lexeme⟩, reader := stop }

/-- Reads the fraction of a number, and says whether there is one: a point is
taken only if a digit follows it. -/
def fraction (r : Reader) : Bool × Reader :=
  if r.current == '.' && isDigit (r.peek 1) then (true, r.advance.advanceWhile isDigit)
  else (false, r)

/-- Moves over the letter of an exponent, and over a sign after it. -/
def afterMark (r : Reader) : Reader :=
  let letter := r.advance
  if letter.current == '+' || letter.current == '-' then letter.advance else letter

/-- Reads the exponent of a number; says whether there is one, and whether it
lacks digits. -/
def exponent (r : Reader) : Bool × Bool × Reader :=
  if r.current == 'e' || r.current == 'E' then
    let mark := afterMark r
    let stop := mark.advanceWhile isDigit
    (true, stop.position.offset ≤ mark.position.offset, stop)
  else (false, false, r)

/-- Reads a number; a `-` in front of it is its sign. -/
def number? (r : Reader) : Option Taken := do
  let whole := (r.accept '-').2.advanceWhile isDigit
  let (hasFraction, afterFraction) := fraction whole
  let (hasExponent, lacksDigits, stop) := exponent afterFraction
  let lexeme := String.ofList (← stop.since? r.position.offset)
  return {
    token := ⟨if hasFraction || hasExponent then .realLiteral else .integerLiteral, lexeme⟩
    fault := if lacksDigits then some (.bareExponent lexeme) else none
    reader := stop }

/-- Reads a `-`, with the number after it where it can be a sign. -/
def minus? (preceding : Preceding) (r : Reader) : Option Taken :=
  if !preceding.minusIsOperator && isDigit (r.peek 1) then number? r
  else some { token := ⟨.arithmeticOperator, "-"⟩, reader := r.advance }

/-- The token made of an open character literal, from its quote on. -/
def openChar? (r stop : Reader) : Option Taken := do
  let lexeme := String.ofList (← stop.since? r.position.offset)
  return { token := ⟨.charLiteral, lexeme⟩, fault := some .openChar, reader := stop }

/-- Reads a character literal: its quote, one character, and the closing quote. -/
def charLiteral? (r : Reader) : Option Taken :=
  let quoted := r.advance
  if quoted.atEnd then openChar? r quoted
  else
    let (closed, stop) := quoted.advance.accept '\''
    if closed then
      some { token := ⟨.charLiteral, String.singleton quoted.current⟩, reader := stop }
    else openChar? r stop

/-- Reads a string literal up to the next double quote. -/
def stringLiteral? (r : Reader) : Option Taken := do
  let stop := r.advance.advanceWhile Reading.inString
  let token := ⟨.stringLiteral, String.ofList (← stop.since? r.advance.position.offset)⟩
  if stop.atEnd then return { token, fault := some .openString, reader := stop }
  return { token, reader := stop.advance }

/-- Reads a symbol, if the next two characters start with one. -/
def symbol? (preceding : Preceding) (r : Reader) : Option Taken :=
  (Reading.symbol? preceding [r.current, r.peek 1]).map fun (text, kind) =>
    { token := ⟨kind, String.ofList text⟩, reader := r.advanceBy text.length }

/-- A step before the end leaves less ahead. -/
theorem length_ahead_advance_lt {r : Reader} (h : ¬ r.atEnd = true) :
    r.advance.ahead.length < r.ahead.length := by
  unfold Reader.atEnd at h
  unfold Reader.advance
  cases hahead : r.ahead with
  | nil => simp [hahead] at h
  | cons c rest => simp

/-- Reads on to the end of a comment and over its closing delimiter, and says
whether there is one. -/
def closeComment (r : Reader) : Bool × Reader :=
  if _h : r.atEnd then (false, r)
  else if r.current == '*' && r.peek 1 == '/' then (true, r.advanceBy 2)
  else closeComment r.advance
termination_by r.ahead.length
decreasing_by exact length_ahead_advance_lt _h

/-- Reads a comment. -/
def comment? (r : Reader) : Option (Item × Reader) := do
  let opened := r.advanceBy 2
  let (closed, stop) := closeComment opened
  let text ← stop.since? opened.position.offset
  return (.skipped (if closed then .comment (text.take (text.length - 2)) else .openComment text),
    stop)

/-- A token that was taken since a reader was another one, with its text. -/
def Taken.item? (t : Taken) (r : Reader) : Option (Item × Reader) := do
  let text ← t.reader.since? r.position.offset
  return (.token ⟨text, t.token, t.fault⟩, t.reader)

/-- Reads a quoted literal, a symbol, or a character that starts no token. -/
def readMark? (preceding : Preceding) (r : Reader) : Option (Item × Reader) :=
  let c := r.current
  if c == '\'' then (charLiteral? r).bind (·.item? r)
  else if c == '"' then (stringLiteral? r).bind (·.item? r)
  else
    match symbol? preceding r with
    | some taken => taken.item? r
    | none => some (.skipped (.unrecognized c), r.advance)

/-- Passes over blanks and reads one item; gives nothing at the end of the source. -/
def readItem? (preceding : Preceding) (r : Reader) : Option (Item × Reader) :=
  let r := r.skipBlanks
  let c := r.current
  if r.atEnd then none
  else if isWordStart c then (word? r).bind (·.item? r)
  else if isDigit c then (number? r).bind (·.item? r)
  else if c == '-' then (minus? preceding r).bind (·.item? r)
  else if c == '/' && r.peek 1 == '*' then comment? r
  else readMark? preceding r

end PascalTokens.Scan.Stepwise
