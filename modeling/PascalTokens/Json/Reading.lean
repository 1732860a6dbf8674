import PascalTokens.Json.Grammar

/-!
# PascalTokens.Json.Reading

Reading JSON documents.  A reader takes what it reads off the front of a text
and returns it with the text after it.  Of a number it reads as much as it can.

Arrays and objects are read to a limit of nesting, which the recursion runs on.
A document is read to its own length, and nothing in it can be nested deeper.
-/

namespace PascalTokens.Json

/-- The text after the blanks in front. -/
def skipSpaces (cs : List Char) : List Char := cs.dropWhile isSpace

/-! ## numbers -/

/-- Reads one digit or more. -/
def digits? : List Char → Option (List Char × List Char)
  | d :: cs =>
    if d.isDigit then
      match digits? cs with
      | some (ds, rest) => some (d :: ds, rest)
      | none => some ([d], cs)
    else none
  | [] => none

/-- Reads the digits before the point. -/
def whole? : List Char → Option (List Char × List Char)
  | '0' :: cs => some (['0'], cs)
  | cs => digits? cs

/-- Reads the digits after the point, if there is a point. -/
def fraction? : List Char → Option (List Char × List Char)
  | '.' :: cs => digits? cs
  | cs => some ([], cs)

/-- Reads the number after the mark of an exponent. -/
def signed? : List Char → Option (Int × List Char)
  | '+' :: cs => (digits? cs).map fun (ds, rest) => (Nat.ofDigitChars 10 ds 0, rest)
  | '-' :: cs => (digits? cs).map fun (ds, rest) => (-Nat.ofDigitChars 10 ds 0, rest)
  | cs => (digits? cs).map fun (ds, rest) => (Nat.ofDigitChars 10 ds 0, rest)

/-- Reads the exponent, if there is one. -/
def exponent? : List Char → Option (Int × List Char)
  | c :: cs => if isExponentMark c then signed? cs else some (0, c :: cs)
  | [] => some (0, [])

/-- Reads a number without a sign. -/
def unsigned? (cs : List Char) : Option (Number × List Char) := do
  let (ds, rest) ← whole? cs
  let (fs, rest) ← fraction? rest
  let (e, rest) ← exponent? rest
  some (.ofDigits ds fs e, rest)

/-- Reads a number. -/
def number? : List Char → Option (Number × List Char)
  | '-' :: cs => (unsigned? cs).map fun (n, rest) => (n.neg, rest)
  | cs => unsigned? cs

/-! ## strings -/

/-- Reads four hexadecimal digits. -/
def unit? : List Char → Option (Nat × List Char)
  | w :: x :: y :: z :: rest => (Text.hexNumber? [w, x, y, z]).map (·, rest)
  | _ => none

/-- The character that two surrogates name. -/
def ofSurrogates? (high low : Nat) : Option Char :=
  if 0xD800 ≤ high ∧ high < 0xDC00 ∧ 0xDC00 ≤ low ∧ low < 0xE000 then
    some (Char.ofNat (0x10000 + 0x400 * (high - 0xD800) + (low - 0xDC00)))
  else none

/-- Reads the second of two surrogates. -/
def lowSurrogate? (high : Nat) : List Char → Option (Char × List Char)
  | '\\' :: 'u' :: cs => do
    let (low, rest) ← unit? cs
    (ofSurrogates? high low).map (·, rest)
  | _ => none

/-- Reads a character that is named by its code. -/
def coded? (cs : List Char) : Option (Char × List Char) := do
  let (n, rest) ← unit? cs
  if n.isValidChar then some (Char.ofNat n, rest) else lowSurrogate? n rest

/-- Reads an escape, after its backslash. -/
def escape? : List Char → Option (Char × List Char)
  | 'u' :: cs => coded? cs
  | l :: cs => (ofLetter? l).map (·, cs)
  | [] => none

/-- Reads a character of a string. -/
def char? : List Char → Option (Char × List Char)
  | '\\' :: cs => escape? cs
  | c :: cs => if isPlain c then some (c, cs) else none
  | [] => none

/-- Reads the characters of a string, and the quote that ends it. -/
def chars? (cs : List Char) : Option (List Char × List Char) :=
  match cs with
  | '"' :: rest => some ([], rest)
  | cs =>
    match char? cs with
    | some (c, rest) =>
      if rest.length < cs.length then (chars? rest).map fun (s, rest) => (c :: s, rest) else none
    | none => none
termination_by cs.length

/-- Reads a string. -/
def string? : List Char → Option (String × List Char)
  | '"' :: cs => (chars? cs).map fun (s, rest) => (String.ofList s, rest)
  | _ => none

/-! ## values -/

section
variable {α : Type} (part? : List Char → Option (α × List Char))

/-- Reads one part or more, with commas between them. -/
def separated? (cs : List Char) : Option (List α × List Char) :=
  match part? (skipSpaces cs) with
  | some (a, rest) =>
    match skipSpaces rest with
    | ',' :: rest =>
      if rest.length < cs.length then (separated? rest).map fun (as, rest) => (a :: as, rest)
      else none
    | rest => some ([a], rest)
  | none => none
termination_by cs.length

/-- Reads a character. -/
def closed? (close : Char) : List Char → Option (List Char)
  | c :: rest => if c = close then some rest else none
  | [] => none

/-- Reads parts, or none, and the character that closes them. -/
def enclosed? (close : Char) (cs : List Char) : Option (List α × List Char) :=
  match closed? close (skipSpaces cs) with
  | some rest => some ([], rest)
  | none => do
    let (as, rest) ← separated? part? cs
    (closed? close rest).map (as, ·)

end

/-- Reads a member of an object. -/
def member? (value? : List Char → Option (Value × List Char)) (cs : List Char) :
    Option ((String × Value) × List Char) := do
  let (name, rest) ← string? cs
  let rest ← closed? ':' (skipSpaces rest)
  let (value, rest) ← value? (skipSpaces rest)
  some ((name, value), rest)

/-- Reads a value that is no array and no object. -/
def scalar? (cs : List Char) : Option (Value × List Char) :=
  match cs with
  | '"' :: _ => (string? cs).map fun (s, rest) => (.string s, rest)
  | 'n' :: 'u' :: 'l' :: 'l' :: rest => some (.null, rest)
  | 't' :: 'r' :: 'u' :: 'e' :: rest => some (.bool true, rest)
  | 'f' :: 'a' :: 'l' :: 's' :: 'e' :: rest => some (.bool false, rest)
  | cs => (number? cs).map fun (n, rest) => (.number n, rest)

/-- Reads a value in which arrays and objects are nested up to a limit. -/
def value? : (limit : Nat) → List Char → Option (Value × List Char)
  | limit + 1, '[' :: cs =>
    (enclosed? (value? limit) ']' cs).map fun (items, rest) => (.array items, rest)
  | limit + 1, '{' :: cs =>
    (enclosed? (member? (value? limit)) '}' cs).map fun (members, rest) => (.object members, rest)
  | _, cs => scalar? cs

/-- Reads a document. -/
def read? (document : List Char) : Option Value :=
  match value? document.length (skipSpaces document) with
  | some (value, rest) => if (skipSpaces rest).isEmpty then some value else none
  | none => none

end PascalTokens.Json
