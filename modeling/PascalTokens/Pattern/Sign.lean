import PascalTokens.Text.Hexadecimal

/-!
# PascalTokens.Pattern.Sign

Signs, the smallest parts of patterns: characters, which may be written as
escapes, and escapes that stand for something else.  Which signs can be used
depends on flags.

Patterns know characters but no properties of them.  So there are no classes
such as `\d` and no boundaries of words, and without regard to case there are no
characters at all.  Where characters are only ASCII all of these can be used,
but nothing that could match a part of a character above ASCII.
-/

namespace PascalTokens

namespace Pattern

/-- A sign of a pattern. -/
inductive Sign
  /-- A character as it is, which may have a meaning. -/
  | plain (c : Char)
  /-- A character that is written as an escape, which has none. -/
  | escaped (c : Char)
  /-- An escape with two digits for a character above ASCII, or for the byte
  of that number. -/
  | byte (c : Char)
  /-- An escape for the characters that have a property, or that have it not. -/
  | property (isNegated : Bool)
  /-- An escape for a boundary of words. -/
  | boundary
  /-- An escape for an end of the text. -/
  | anchor
deriving DecidableEq, Repr

namespace Sign

/-- The character that a sign stands for. -/
def char? : Sign → Option Char
  | plain c | escaped c | byte c => some c
  | property _ | boundary | anchor => none

/-- Whether a character is one of ASCII. -/
def isAscii (c : Char) : Bool := c.toNat < 0x80

/-- Control characters that have a letter as their escape. -/
def controls : List (Char × Char) :=
  [('a', '\x07'), ('f', '\x0C'), ('n', '\n'), ('r', '\r'), ('t', '\t'), ('v', '\x0B')]

/-- The sign that is written as a backslash and a character.  Of the ASCII
characters all but the letters, the digits and the angle brackets stand for
themselves. -/
def ofEscape? (c : Char) : Option Sign :=
  if ['d', 's', 'w'].contains c then some (property false)
  else if ['D', 'S', 'W'].contains c then some (property true)
  else if ['b', 'B', '<', '>'].contains c then some boundary
  else if ['A', 'z'].contains c then some anchor
  else if isAscii c && !c.isAlphanum then some (escaped c)
  else (controls.lookup c).map escaped

/-- The number of digits after a backslash and a letter that name a character
by its code point. -/
def digits? (c : Char) : Option Nat := [('x', 2), ('u', 4), ('U', 8)].lookup c

/-- The sign that is named by hexadecimal digits. -/
def ofDigits? (digits : List Char) : Option Sign :=
  (Text.hexChar? digits).map fun c =>
    if digits.length = 2 ∧ !isAscii c then byte c else escaped c

end Sign

/-- Flags that bear on which texts are patterns. -/
structure Flags where
  /-- The flag `i`: case is not regarded. -/
  isCaseless : Bool := false
  /-- Without the flag `u`: characters are only ASCII. -/
  isAscii : Bool := false
  /-- The flag `x`: blanks and comments do not count. -/
  isSpaced : Bool := false
deriving DecidableEq, Repr

namespace Flags

/-- The characters that flags are given by, and the hyphen in front of those
that are turned off. -/
def names : List Char := ['i', 'm', 's', 'U', 'R', 'u', 'x', '-']

/-- The flags after a change: those in front of a hyphen are turned on, those
after it off. -/
def change (f : Flags) (names : List Char) : Flags :=
  let turnedOn := names.takeWhile (· != '-')
  let setting (name : Char) (old : Bool) : Bool :=
    if names.contains name then turnedOn.contains name else old
  let isUnicode := setting 'u' (!f.isAscii)
  { isCaseless := setting 'i' f.isCaseless
    isAscii := !isUnicode
    isSpaced := setting 'x' f.isSpaced }

/-- Whether a sign can stand for something by itself. -/
def allows (f : Flags) : Sign → Bool
  | .plain _ | .escaped _ => f.isAscii || !f.isCaseless
  | .byte _ => !f.isAscii && !f.isCaseless
  | .property isNegated => f.isAscii && !isNegated
  | .boundary => f.isAscii
  | .anchor => true

/-- Whether a sign can stand in sets. -/
def allowsInSet (f : Flags) : Sign → Bool
  | .plain c | .escaped c => !f.isAscii || Sign.isAscii c
  | .byte _ => !f.isAscii
  | .property isNegated => f.isAscii && !isNegated
  | .boundary | .anchor => false

/-- Whether any character can be meant, and sets by what they do not hold. -/
def allowsOthers (f : Flags) : Bool := !f.isAscii

/-- Whether sets can be used. -/
def allowsSets (f : Flags) : Bool := f.isAscii || !f.isCaseless

end Flags

end Pattern

end PascalTokens
