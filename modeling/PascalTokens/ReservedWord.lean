import PascalTokens.Unicode.Lowercase

/-!
# PascalTokens.ReservedWord

The reserved words of the language.  A word is reserved in any mixture of
cases, so it is looked up in lower case.
-/

namespace PascalTokens

/-- The reserved words, in lower case and in order. -/
def reservedWords : List String := [
  "absolute", "array", "begin", "case", "char", "const", "div", "do", "dowto", "else", "end",
  "external", "file", "for", "forward", "func", "function", "goto", "if", "implementation",
  "integer", "interface", "interrupt", "label", "main", "nil", "nit", "of", "packed", "proc",
  "program", "real", "record", "repeat", "set", "shl", "shr", "string", "then", "to", "type",
  "unit", "until", "uses", "var", "while", "with", "xor"]

/-- Bytes of the longest reserved word. -/
def longestReserved : Nat := 14

/-- Whether a text is one of the reserved words in lower case.  The words are
spelled out here once more; `isReservedLower_iff` says that they are those of the
table. -/
def isReservedLower : String → Bool
  | "absolute" | "array" | "begin" | "case" | "char" | "const" | "div" | "do" | "dowto" | "else"
  | "end" | "external" | "file" | "for" | "forward" | "func" | "function" | "goto" | "if"
  | "implementation" | "integer" | "interface" | "interrupt" | "label" | "main" | "nil" | "nit"
  | "of" | "packed" | "proc" | "program" | "real" | "record" | "repeat" | "set" | "shl" | "shr"
  | "string" | "then" | "to" | "type" | "unit" | "until" | "uses" | "var" | "while" | "with"
  | "xor" => true
  | _ => false

/-- Whether a word is reserved.  A word of more bytes than any reserved word
is none, so it need not be lower-cased; the empty word is none either. -/
def isReserved (word : String) : Bool :=
  word.utf8ByteSize ≤ longestReserved && word ≠ "" && isReservedLower (Unicode.lowercase word)

/-- The reserved words as a listing, one a line. -/
def reservedListing : String := "\n".intercalate reservedWords ++ "\n"

example : reservedWords.length = 48 := by decide

/-- The words that are spelled out are those of the table. -/
theorem isReservedLower_iff {word : String} :
    isReservedLower word = true ↔ word ∈ reservedWords := by
  unfold isReservedLower
  split
  -- One case for each word that is spelled out, and one for all other texts.
  all_goals simp_all [reservedWords]

/-- The kelvin sign counts as a letter `k`. -/
example : isReserved "pac\u212Aed" = true := by decide +kernel

end PascalTokens
