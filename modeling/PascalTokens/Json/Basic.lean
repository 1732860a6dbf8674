/-!
# PascalTokens.Json.Basic

JSON values, and their written form on several lines:

1. an array or object with members has one member a line, indented by two
   blanks more than the line that opens it; without members it is `[]` or `{}`;
2. a colon is followed by a blank;
3. in a string the double quote, the backslash and the control characters
   below `U+0020` are escaped, those with a short escape by it; everything
   else stands for itself.
-/

namespace PascalTokens

/-- A JSON value.  Numbers are natural numbers: no other are written. -/
inductive Json
  | null
  | bool (b : Bool)
  | number (n : Nat)
  | string (s : String)
  | array (items : List Json)
  | object (members : List (String × Json))

namespace Json

/-- Four lower-case hexadecimal digits of a code point. -/
def hexDigits4 (n : Nat) : List Char :=
  [n / 4096, n / 256, n / 16, n].map fun d => Nat.digitChar (d % 16)

/-- A character as it is written in a string. -/
def escapeChar (c : Char) : List Char :=
  match c with
  | '"' => ['\\', '"']
  | '\\' => ['\\', '\\']
  | '\x08' => ['\\', 'b']
  | '\t' => ['\\', 't']
  | '\n' => ['\\', 'n']
  | '\x0C' => ['\\', 'f']
  | '\r' => ['\\', 'r']
  | c => if c.toNat < 0x20 then '\\' :: 'u' :: hexDigits4 c.toNat else [c]

/-- A string in quotes, with what has to be escaped. -/
def quote (s : String) : String :=
  "\"" ++ String.ofList (s.toList.flatMap escapeChar) ++ "\""

/-- The start of a line at a depth of nesting. -/
def newline (depth : Nat) : String := "\n" ++ String.ofList (List.replicate (2 * depth) ' ')

mutual

/-- Writes a value at a depth of nesting, after what is written already. -/
def write (out : String) (depth : Nat) : Json → String
  | null => out ++ "null"
  | bool b => out ++ if b then "true" else "false"
  | number n => out ++ toString n
  | string s => out ++ quote s
  | array [] => out ++ "[]"
  | array (item :: items) =>
    let out := write (out ++ "[" ++ newline (depth + 1)) (depth + 1) item
    writeItems out (depth + 1) items ++ newline depth ++ "]"
  | object [] => out ++ "\x7b\x7d"
  | object ((name, value) :: members) =>
    let out := write (out ++ "\x7b" ++ newline (depth + 1) ++ quote name ++ ": ") (depth + 1) value
    writeMembers out (depth + 1) members ++ newline depth ++ "\x7d"

/-- Writes further items of an array. -/
def writeItems (out : String) (depth : Nat) : List Json → String
  | [] => out
  | item :: items => writeItems (write (out ++ "," ++ newline depth) depth item) depth items

/-- Writes further members of an object. -/
def writeMembers (out : String) (depth : Nat) : List (String × Json) → String
  | [] => out
  | (name, value) :: members =>
    writeMembers (write (out ++ "," ++ newline depth ++ quote name ++ ": ") depth value) depth
      members

end

/-- The written form of a value. -/
def pretty (j : Json) : String := write "" 0 j

end Json

end PascalTokens
