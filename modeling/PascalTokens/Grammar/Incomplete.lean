import PascalTokens.Grammar.Spelling

/-!
# PascalTokens.Grammar.Incomplete

The texts that start with a literal which cannot be completed.

1. A character literal is open where a single quote stands, but no character
   between two of them.
2. A string literal is open where a double quote stands, and no other after it.
3. A number lacks its exponent where it has the mark of one, and no digit after
   the mark.
-/

namespace PascalTokens

/-- Whether a text starts with a single quote, but with no character literal. -/
def StartsOpenChar (cs : List Char) : Prop := ['\''] <+: cs ∧ ∀ c, ¬ ['\'', c, '\''] <+: cs

/-- Whether a text is a double quote and a content without another. -/
def IsOpenString (content cs : List Char) : Prop := cs = '"' :: content ∧ '"' ∉ content

/-- Whether a text is a number up to the mark of its exponent, and a rest follows
that gives the exponent no digits.  The mark has a sign if there is one. -/
inductive LacksExponent (preceding : Preceding) : List Char → List Char → Prop
  | mk {sign whole fraction mark rest : List Char} (isSign : IsSign preceding sign)
      (isWhole : IsDigits whole) (isFraction : IsFraction fraction) (isMark : mark ∈ exponentMarks)
      (noDigit : ∀ d ∈ rest.head?, isDigit d = false)
      (noSign : mark.length = 1 → ∀ d ∈ rest.head?, d ≠ '+' ∧ d ≠ '-') :
      LacksExponent preceding (sign ++ whole ++ fraction ++ mark) rest

end PascalTokens
