import PascalTokens.Unicode.Alphabetic
import PascalTokens.Unicode.Numeric
import PascalTokens.Unicode.WhiteSpace

/-!
# PascalTokens.Alphabet

The character classes of the language.  Words and blanks follow Unicode;
digits are the ten ASCII ones.
-/

namespace PascalTokens

/-- Whether a character separates tokens: Unicode white space without the
no-break spaces and the next-line control, and with the four information
separators `U+001C` to `U+001F`. -/
def isBlank (c : Char) : Bool :=
  if 0x1C ≤ c.toNat && c.toNat ≤ 0x1F then true
  else if c = '\u0085' ∨ c = '\u00A0' ∨ c = '\u2007' ∨ c = '\u202F' then false
  else Unicode.isWhiteSpace c

/-- Whether a word may start with a character. -/
def isWordStart (c : Char) : Bool := Unicode.isAlphabetic c

/-- Whether a word may go on with a character. -/
def isWordPart (c : Char) : Bool := Unicode.isAlphabetic c || Unicode.isNumeric c

/-- Whether a character is one of the ASCII digits `0` to `9`. -/
abbrev isDigit (c : Char) : Bool := c.isDigit

/-- A word may go on with every character that it may start with. -/
theorem isWordPart_of_isWordStart {c : Char} (h : isWordStart c = true) : isWordPart c = true := by
  simp [isWordPart, isWordStart] at *
  exact .inl h

/-- A no-break space joins; it does not separate. -/
example : isBlank '\u00A0' = false ∧ isBlank '\u3000' = true ∧ isBlank '\x1F' = true := by decide

end PascalTokens
