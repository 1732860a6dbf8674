import PascalTokens.Diagnostic
import PascalTokens.Token

/-!
# PascalTokens.Fault

What can be wrong with a source.  Nothing of it stops a scan: a character
that starts no token is skipped, and a literal that cannot be completed still
gives a token, made of what there is of it.
-/

namespace PascalTokens

/-- A fault in a source. -/
inductive Fault
  /-- A character that starts no token. -/
  | unrecognizedChar (c : Char)
  /-- A character literal without its closing quote. -/
  | openChar
  /-- A string literal without its closing quote. -/
  | openString
  /-- A number whose exponent has no digits. -/
  | bareExponent (lexeme : String)
deriving DecidableEq, Repr

namespace Fault

/-- The text shown for a fault. -/
def message : Fault → String
  | unrecognizedChar c => "unrecognized character '" ++ String.singleton c ++ "'"
  | openChar => "unterminated character literal"
  | openString => "unterminated string literal"
  | bareExponent lexeme => "missing digits after exponent in '" ++ lexeme ++ "'"

/-- The code of a fault. -/
def code : Fault → Code
  | unrecognizedChar _ => .unrecognizedChar
  | openChar => .openChar
  | openString => .openString
  | bareExponent _ => .bareExponent

/-- Skipped characters are warnings; literals that are not complete are errors. -/
def severity : Fault → Severity
  | unrecognizedChar _ => .warning
  | _ => .error

/-- What to do about a fault, where that is plain. -/
def help? : Fault → Option String
  | unrecognizedChar _ => none
  | openChar => some "character literals hold exactly one character: 'c'"
  | openString => some "add a closing `\"`"
  | bareExponent _ => some "write the exponent as digits, e.g. 1e10"

/-- The message that reports a fault in a region. -/
def diagnostic (f : Fault) (region : Region) : Diagnostic where
  severity := f.severity
  message := f.message
  region := region
  code := some f.code
  helps := f.help?.toList

end Fault

/-- A literal that could not be completed: the token made of what there is of
it, what is wrong, and where it stands. -/
structure Incomplete where
  token : Token
  fault : Fault
  region : Region
deriving DecidableEq, Repr

namespace Incomplete

/-- The fault and its place on one line. -/
def display (i : Incomplete) : String := i.fault.message ++ " at " ++ i.region.display

instance : ToString Incomplete := ⟨display⟩

end Incomplete

end PascalTokens
