import PascalTokens.Unicode.Printable

/-!
# PascalTokens.Text.Quoted

A character in single quotes, written so that it can be told apart in a log:

1. NUL, tab, line feed, carriage return, the single quote and the backslash
   are escaped as `\0`, `\t`, `\n`, `\r`, `\'` and `\\`;
2. any other character that cannot be shown alone is escaped as its code
   point in lower-case hexadecimal, between braces after `\u`;
3. everything else stands for itself.
-/

namespace PascalTokens.Text

/-- A code point in lower-case hexadecimal digits, without leading zeros. -/
def hexDigits (n : Nat) : String := String.ofList (Nat.toDigits 16 n)

/-- A character as it is written between single quotes. -/
def escapeChar (c : Char) : String :=
  match c with
  | '\x00' => "\\0"
  | '\t' => "\\t"
  | '\n' => "\\n"
  | '\r' => "\\r"
  | '\'' => "\\'"
  | '\\' => "\\\\"
  | c =>
    if Unicode.isPrintable c then String.singleton c
    else "\\u\x7b" ++ hexDigits c.toNat ++ "\x7d"

/-- A character in single quotes. -/
def quoteChar (c : Char) : String := "'" ++ escapeChar c ++ "'"

/-- A combining mark would join the quote before it, so it is escaped. -/
example : quoteChar '\u0301' = "'\\u\x7b301\x7d'" := by decide +kernel

example : quoteChar '€' = "'€'" := by decide +kernel

end PascalTokens.Text
