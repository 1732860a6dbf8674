import PascalTokens.Alphabet
import PascalTokens.Token

/-!
# PascalTokens.Grammar.Spelling

The token grammar: which texts spell a token, and of which kind.

1. A word is a letter with letters and digits after it.  It is reserved if its
   lower-case form is in the table of reserved words.
2. A number has digits, and perhaps a sign before them and a fraction and an
   exponent after them.  It has a sign only where `-` is no operator, and it
   is an integer if it has neither fraction nor exponent.
3. A character literal is one character between single quotes.
4. A string literal is text without double quotes between double quotes.
5. The symbols are fixed, and `.` ends the program after `end`.

A scan takes the longest spelling that a text starts with.
-/

namespace PascalTokens

/-- Whether a text is a row of ASCII digits, one at least. -/
def IsDigits (cs : List Char) : Prop := cs ≠ [] ∧ ∀ c ∈ cs, isDigit c = true

/-- Whether a text is the sign of a number, or nothing. -/
def IsSign (preceding : Preceding) (cs : List Char) : Prop :=
  cs = [] ∨ cs = ['-'] ∧ preceding ≠ .operand

/-- Whether a text is a fraction, or nothing. -/
def IsFraction (cs : List Char) : Prop := cs = [] ∨ ∃ digits, IsDigits digits ∧ cs = '.' :: digits

/-- The marks that an exponent begins with, a sign included. -/
def exponentMarks : List (List Char) :=
  [['e'], ['E'], ['e', '+'], ['E', '+'], ['e', '-'], ['E', '-']]

/-- Whether a text is an exponent, or nothing. -/
def IsExponent (cs : List Char) : Prop :=
  cs = [] ∨ ∃ mark ∈ exponentMarks, ∃ digits, IsDigits digits ∧ cs = mark ++ digits

/-- The symbols that mean the same wherever they stand, with their kinds. -/
def symbols : List (List Char × Kind) := [
  (['('], .specialSymbol), ([')'], .specialSymbol), ([';'], .specialSymbol),
  ([','], .specialSymbol), ([':'], .specialSymbol), ([':', '='], .assignment),
  (['+'], .arithmeticOperator), (['-'], .arithmeticOperator), (['*'], .arithmeticOperator),
  (['/'], .arithmeticOperator), (['='], .relationalOperator), (['<'], .relationalOperator),
  (['<', '='], .relationalOperator), (['<', '>'], .relationalOperator),
  (['>'], .relationalOperator), (['>', '='], .relationalOperator)]

/-- The texts that spell a token after what stands before it, and the kind of
the token. -/
inductive Spelling (preceding : Preceding) : List Char → Kind → Prop
  | reserved {c : Char} {cs : List Char} (first : isWordStart c = true)
      (others : ∀ d ∈ cs, isWordPart d = true)
      (listed : Unicode.lowercase (String.ofList (c :: cs)) ∈ reservedWords) :
      Spelling preceding (c :: cs) .reservedWord
  | identifier {c : Char} {cs : List Char} (first : isWordStart c = true)
      (others : ∀ d ∈ cs, isWordPart d = true)
      (unlisted : Unicode.lowercase (String.ofList (c :: cs)) ∉ reservedWords) :
      Spelling preceding (c :: cs) .identifier
  | integer {sign whole : List Char} (isSign : IsSign preceding sign) (isWhole : IsDigits whole) :
      Spelling preceding (sign ++ whole) .integerLiteral
  | real {sign whole fraction exponent : List Char} (isSign : IsSign preceding sign)
      (isWhole : IsDigits whole) (isFraction : IsFraction fraction)
      (isExponent : IsExponent exponent) (isReal : fraction ≠ [] ∨ exponent ≠ []) :
      Spelling preceding (sign ++ whole ++ fraction ++ exponent) .realLiteral
  | char (c : Char) : Spelling preceding ['\'', c, '\''] .charLiteral
  | string {cs : List Char} (plain : '"' ∉ cs) :
      Spelling preceding ('"' :: cs ++ ['"']) .stringLiteral
  | symbol {text : List Char} {kind : Kind} (fixed : (text, kind) ∈ symbols) :
      Spelling preceding text kind
  | point (between : preceding ≠ .endWord) : Spelling preceding ['.'] .specialSymbol
  | ending (last : preceding = .endWord) : Spelling preceding ['.'] .endMarker

end PascalTokens
