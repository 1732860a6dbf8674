import PascalTokens.Unicode.CodeRanges

/-!
# PascalTokens.Unicode.WhiteSpace

The Unicode property White_Space.  It holds more than core's
`Char.isWhitespace`, which knows ASCII only.
-/

namespace PascalTokens.Unicode

/-- Code points with the property White_Space. -/
def whiteSpaceRanges : CodeRanges := [
  (0x9, 0xD), (0x20, 0x20), (0x85, 0x85), (0xA0, 0xA0), (0x1680, 0x1680), (0x2000, 0x200A),
  (0x2028, 0x2029), (0x202F, 0x202F), (0x205F, 0x205F), (0x3000, 0x3000)]

/-- Whether a character has the property White_Space. -/
def isWhiteSpace (c : Char) : Bool := whiteSpaceRanges.has c.toNat

example : whiteSpaceRanges.Sorted := by decide

end PascalTokens.Unicode
