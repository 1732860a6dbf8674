import PascalTokens.Json.Basic
import PascalTokens.Text.Hexadecimal

/-!
# PascalTokens.Json.Grammar

The grammar of JSON documents (RFC 8259).  Each of its rules is a relation
`IsRule a cs rest`: the text `cs` is `a`, written as the rule says, and then
`rest`.

1. Blanks may stand around the six structural characters and around the value
   of a document.
2. A number keeps the digits it is written with: `1.50` is `150` at the
   exponent `-2`.
3. In a string a character stands for itself or for a part of an escape.  Half
   of a surrogate pair is no character, so an escape of it alone is no string.
-/

namespace PascalTokens.Json

/-- A decimal number: a coefficient times a power of ten. -/
structure Number where
  coefficient : Int
  exponent : Int
deriving DecidableEq, Repr

/-- What a JSON document can hold. -/
inductive Value
  | null
  | bool (b : Bool)
  | number (n : Number)
  | string (s : String)
  | array (items : List Value)
  | object (members : List (String × Value))

/-- A value as a document holds it. -/
def toValue : Json → Value
  | null => .null
  | bool b => .bool b
  | number n => .number ⟨n, 0⟩
  | string s => .string s
  | array items => .array (items.map toValue)
  | object members => .object (members.map fun m => (m.1, toValue m.2))
termination_by j => j
decreasing_by
  · have := List.sizeOf_lt_of_mem ‹_›
    simp; omega
  · have := List.sizeOf_lt_of_mem ‹_›
    cases m
    simp at *; omega

/-- Whether a character is a blank. -/
def isSpace (c : Char) : Bool := c == ' ' || c == '\t' || c == '\n' || c == '\r'

/-- Blanks, or none. -/
inductive IsSpaces : List Char → List Char → Prop
  | nil {rest} : IsSpaces rest rest
  | cons {c cs rest} (hc : isSpace c = true) (h : IsSpaces cs rest) : IsSpaces (c :: cs) rest

/-! ## numbers -/

/-- One digit or more. -/
inductive IsDigits : List Char → List Char → List Char → Prop
  | one {d rest} (hd : d.isDigit = true) : IsDigits [d] (d :: rest) rest
  | cons {d ds cs rest} (hd : d.isDigit = true) (h : IsDigits ds cs rest) :
      IsDigits (d :: ds) (d :: cs) rest

/-- The digits before the point: a zero in front stands alone. -/
inductive IsWhole : List Char → List Char → List Char → Prop
  | zero {rest} : IsWhole ['0'] ('0' :: rest) rest
  | digits {d ds cs rest} (hd : d ≠ '0') (h : IsDigits (d :: ds) cs rest) :
      IsWhole (d :: ds) cs rest

/-- The digits after the point, if there is a point. -/
inductive IsFraction : List Char → List Char → List Char → Prop
  | absent {rest} : IsFraction [] rest rest
  | present {ds cs rest} (h : IsDigits ds cs rest) : IsFraction ds ('.' :: cs) rest

/-- Whether a character announces an exponent. -/
def isExponentMark (c : Char) : Bool := c == 'e' || c == 'E'

/-- The exponent, if there is one. -/
inductive IsExponent : Int → List Char → List Char → Prop
  | absent {rest} : IsExponent 0 rest rest
  | plain {c ds cs rest} (hc : isExponentMark c = true) (h : IsDigits ds cs rest) :
      IsExponent (Nat.ofDigitChars 10 ds 0) (c :: cs) rest
  | plus {c ds cs rest} (hc : isExponentMark c = true) (h : IsDigits ds cs rest) :
      IsExponent (Nat.ofDigitChars 10 ds 0) (c :: '+' :: cs) rest
  | minus {c ds cs rest} (hc : isExponentMark c = true) (h : IsDigits ds cs rest) :
      IsExponent (-Nat.ofDigitChars 10 ds 0) (c :: '-' :: cs) rest

/-- The number of digits before and after the point and an exponent. -/
def Number.ofDigits (whole fraction : List Char) (exponent : Int) : Number :=
  ⟨Nat.ofDigitChars 10 (whole ++ fraction) 0, exponent - fraction.length⟩

/-- The number of the other sign. -/
def Number.neg (n : Number) : Number := ⟨-n.coefficient, n.exponent⟩

/-- A number without a sign. -/
inductive IsUnsigned : Number → List Char → List Char → Prop
  | mk {ds fs e cs point mark rest} (hw : IsWhole ds cs point) (hf : IsFraction fs point mark)
      (he : IsExponent e mark rest) : IsUnsigned (.ofDigits ds fs e) cs rest

/-- A number. -/
inductive IsNumber : Number → List Char → List Char → Prop
  | plain {n cs rest} (h : IsUnsigned n cs rest) : IsNumber n cs rest
  | minus {n cs rest} (h : IsUnsigned n cs rest) : IsNumber n.neg ('-' :: cs) rest

/-! ## strings -/

/-- Whether a character stands for itself in a string. -/
def isPlain (c : Char) : Bool := 0x20 ≤ c.toNat && c != '"' && c != '\\'

/-- The character that a letter after a backslash stands for. -/
def ofLetter? : Char → Option Char
  | '"' => some '"'
  | '\\' => some '\\'
  | '/' => some '/'
  | 'b' => some '\x08'
  | 'f' => some '\x0C'
  | 'n' => some '\n'
  | 'r' => some '\r'
  | 't' => some '\t'
  | _ => none

/-- Four hexadecimal digits. -/
inductive IsUnit : Nat → List Char → List Char → Prop
  | mk {n w x y z rest} (h : Text.hexNumber? [w, x, y, z] = some n) :
      IsUnit n (w :: x :: y :: z :: rest) rest

/-- A character of a string.  One past `U+FFFF` may be named by a pair of
surrogates. -/
inductive IsChar : Char → List Char → List Char → Prop
  | plain {c rest} (hc : isPlain c = true) : IsChar c (c :: rest) rest
  | letter {c l rest} (hl : ofLetter? l = some c) : IsChar c ('\\' :: l :: rest) rest
  | unit {c cs rest} (h : IsUnit c.toNat cs rest) : IsChar c ('\\' :: 'u' :: cs) rest
  | pair {c high low cs mid rest} (hh : high < 0x400) (hl : low < 0x400)
      (hc : c.toNat = 0x10000 + 0x400 * high + low)
      (h₁ : IsUnit (0xD800 + high) cs ('\\' :: 'u' :: mid)) (h₂ : IsUnit (0xDC00 + low) mid rest) :
      IsChar c ('\\' :: 'u' :: cs) rest

/-- The characters of a string, and the quote that ends it. -/
inductive IsChars : List Char → List Char → List Char → Prop
  | nil {rest} : IsChars [] ('"' :: rest) rest
  | cons {c s cs mid rest} (hc : IsChar c cs mid) (h : IsChars s mid rest) :
      IsChars (c :: s) cs rest

/-- A string. -/
inductive IsString : String → List Char → List Char → Prop
  | mk {s cs rest} (h : IsChars s.toList cs rest) : IsString s ('"' :: cs) rest

/-! ## values -/

section
variable {α : Type}

/-- One part or more, with commas between them. -/
inductive IsSeparated (IsPart : α → List Char → List Char → Prop) :
    List α → List Char → List Char → Prop
  | one {a cs part after rest} (before : IsSpaces cs part) (h : IsPart a part after)
      (hr : IsSpaces after rest) : IsSeparated IsPart [a] cs rest
  | cons {a as cs part after next rest} (before : IsSpaces cs part) (h : IsPart a part after)
      (hr : IsSpaces after (',' :: next)) (hs : IsSeparated IsPart as next rest) :
      IsSeparated IsPart (a :: as) cs rest

/-- Parts, or none, and the character that closes them. -/
inductive IsEnclosed (IsPart : α → List Char → List Char → Prop) (close : Char) :
    List α → List Char → List Char → Prop
  | none {cs rest} (h : IsSpaces cs (close :: rest)) : IsEnclosed IsPart close [] cs rest
  | some {as cs rest} (h : IsSeparated IsPart as cs (close :: rest)) :
      IsEnclosed IsPart close as cs rest

end

/-- A value that is no array and no object. -/
inductive IsScalar : Value → List Char → List Char → Prop
  | null {rest} : IsScalar .null ('n' :: 'u' :: 'l' :: 'l' :: rest) rest
  | true {rest} : IsScalar (.bool true) ('t' :: 'r' :: 'u' :: 'e' :: rest) rest
  | false {rest} : IsScalar (.bool false) ('f' :: 'a' :: 'l' :: 's' :: 'e' :: rest) rest
  | number {n cs rest} (h : IsNumber n cs rest) : IsScalar (.number n) cs rest
  | string {s cs rest} (h : IsString s cs rest) : IsScalar (.string s) cs rest

mutual

/-- A value. -/
inductive IsValue : Value → List Char → List Char → Prop
  | scalar {v cs rest} (h : IsScalar v cs rest) : IsValue v cs rest
  | array {items cs rest} (h : IsEnclosed IsValue ']' items cs rest) :
      IsValue (.array items) ('[' :: cs) rest
  | object {members cs rest} (h : IsEnclosed IsMember '}' members cs rest) :
      IsValue (.object members) ('{' :: cs) rest

/-- A member of an object. -/
inductive IsMember : String × Value → List Char → List Char → Prop
  | mk {name value cs colon mid start rest} (hn : IsString name cs colon)
      (hc : IsSpaces colon (':' :: mid)) (hm : IsSpaces mid start) (hv : IsValue value start rest) :
      IsMember (name, value) cs rest

end

/-- A document: a value, and nothing else but blanks. -/
def IsDocument (value : Value) (document : List Char) : Prop :=
  ∃ start rest, IsSpaces document start ∧ IsValue value start rest ∧ IsSpaces rest []

end PascalTokens.Json
