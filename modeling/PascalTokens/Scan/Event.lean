import PascalTokens.Fault
import PascalTokens.LogEvent
import PascalTokens.Text.Quoted

/-!
# PascalTokens.Scan.Event

What a scan tells the log.  Every token is an entry of the least loud level, and a
warning with the place of the token goes before it when the literal is
incomplete; skipped characters and comments are told as they are passed.
-/

namespace PascalTokens.Scan

/-- Something that happened in a scan. -/
inductive Event
  /-- A token was read. -/
  | token (t : Token)
  /-- An incomplete literal was read at a place. -/
  | incomplete (fault : Fault) (place : Position)
  /-- A character that starts no token was skipped at a place. -/
  | unrecognized (c : Char) (place : Position)
  /-- A comment that started at a place was skipped. -/
  | comment (closed : Bool) (place : Position)
deriving DecidableEq, Repr

namespace Event

/-- The line and the column of a place. -/
def lineAndColumn (place : Position) : List (String × String) :=
  [("line", toString place.line.toNat), ("column", toString place.column.toNat)]

/-- The log entry of an event. -/
def logEvent : Event → LogEvent
  | token t => ⟨.trace, .scanner, "token", [("kind", t.kind.name), ("lexeme", t.lexeme)]⟩
  | incomplete fault place => ⟨.warn, .scanner, fault.message, lineAndColumn place⟩
  | unrecognized c place =>
    ⟨.warn, .scanner, "unrecognized character " ++ Text.quoteChar c, lineAndColumn place⟩
  | comment closed place =>
    ⟨.debug, .comments,
      if closed then "skipped block comment"
      else "unterminated block comment runs to end of input",
      [("line", toString place.line.toNat)]⟩

end Event

end PascalTokens.Scan
