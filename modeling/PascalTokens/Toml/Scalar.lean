import PascalTokens.Toml.Text

/-!
# PascalTokens.Toml.Scalar

Numbers, dates and times in TOML documents.  No setting is one of these, so
they are recognised and their values forgotten; what is left of the text after
them is all that is returned.

1. Digits may be set off by single underscores between them.
2. An integer has to fit into 64 bits with a sign.
3. A float may not round to positive infinity; it may be written as `inf`.
4. The fields of a date and a time have to be in their ranges, the day in that
   of its month.
-/

namespace PascalTokens.Toml

/-! ## digits -/

/-- Digits, after a first one, with single underscores between them: the
digits, and the text after them. -/
def moreDigits (isDigit : Char → Bool) : List Char → List Char × List Char
  | '_' :: c :: cs =>
    if isDigit c then
      let (digits, rest) := moreDigits isDigit cs
      (c :: digits, rest)
    else ([], '_' :: c :: cs)
  | c :: cs =>
    if isDigit c then
      let (digits, rest) := moreDigits isDigit cs
      (c :: digits, rest)
    else ([], c :: cs)
  | [] => ([], [])

/-- One digit or more, set off by single underscores perhaps. -/
def digits? (isDigit : Char → Bool) : List Char → Option (List Char × List Char)
  | c :: cs =>
    if isDigit c then
      let (digits, rest) := moreDigits isDigit cs
      some (c :: digits, rest)
    else none
  | [] => none

/-- The number that digits of a base write. -/
def numberOf (base : Nat) (digits : List Char) : Nat :=
  digits.foldl (fun n c => base * n + (Text.hexValue? c).getD 0) 0

/-- A sign, if there is one: whether it is a minus, and the text after it. -/
def sign : List Char → Bool × List Char
  | '-' :: cs => (true, cs)
  | '+' :: cs => (false, cs)
  | cs => (false, cs)

/-- A decimal integer after its sign.  A zero in front stands alone. -/
def decimal? : List Char → Option (List Char × List Char)
  | '0' :: cs => some (['0'], cs)
  | cs => digits? Char.isDigit cs

/-! ## integers -/

/-- Whether a character is a digit of a base up to sixteen. -/
def isDigitOf (base : Nat) (c : Char) : Bool := (Text.hexValue? c).any (· < base)

/-- Digits of a base that write a number of at most 63 bits. -/
def based? (base : Nat) (cs : List Char) : Option (List Char) := do
  let (digits, rest) ← digits? (isDigitOf base) cs
  if numberOf base digits < Nat.pow 2 63 then some rest else none

/-- An integer: in base 16, 8 or 2 after `0x`, `0o` or `0b`, and in base 10
with a sign perhaps. -/
def integer? : List Char → Option (List Char)
  | '0' :: 'x' :: cs => based? 16 cs
  | '0' :: 'o' :: cs => based? 8 cs
  | '0' :: 'b' :: cs => based? 2 cs
  | cs => do
    let (negative, cs) := sign cs
    let (digits, rest) ← decimal? cs
    let n := numberOf 10 digits
    if n < Nat.pow 2 63 ∨ (negative ∧ n = Nat.pow 2 63) then some rest else none

/-! ## floats -/

/-- The least number that rounds to infinity: half a unit above the greatest
finite double. -/
def overflow : Nat := Nat.pow 2 1024 - Nat.pow 2 970

/-- Whether `mantissa · 10 ^ exponent` rounds to infinity.  Where the number of
digits alone decides, no power is computed. -/
def overflows (mantissa : Nat) (exponent : Int) : Bool :=
  let digits : Int := (Nat.toDigits 10 mantissa).length
  if mantissa = 0 ∨ digits + exponent < 300 then false
  else if digits + exponent > 320 then true
  else if 0 ≤ exponent then overflow ≤ mantissa * Nat.pow 10 exponent.toNat
  else overflow * Nat.pow 10 (-exponent).toNat ≤ mantissa

/-- The fraction of a float: its digits, if it has one. -/
def fraction? : List Char → Option (List Char × List Char)
  | '.' :: cs => digits? Char.isDigit cs
  | _ => none

/-- The exponent of a float, if it has one. -/
def exponent? : List Char → Option (Int × List Char)
  | c :: cs =>
    if c = 'e' ∨ c = 'E' then do
      let (negative, cs) := sign cs
      let (digits, rest) ← digits? Char.isDigit cs
      let n : Int := numberOf 10 digits
      some (if negative then -n else n, rest)
    else none
  | [] => none

/-- `inf` or `nan`. -/
def specialFloat? : List Char → Option (List Char)
  | 'i' :: 'n' :: 'f' :: cs => some cs
  | 'n' :: 'a' :: 'n' :: cs => some cs
  | _ => none

/-- A float: an integer with a fraction, an exponent or both, or one of `inf`
and `nan`, with a sign perhaps. -/
def float? (cs : List Char) : Option (List Char) :=
  let (negative, cs) := sign cs
  match decimal? cs with
  | none => specialFloat? cs
  | some (whole, rest) =>
    let (fraction, rest') := (fraction? rest).getD ([], rest)
    let (exponent, rest'') := (exponent? rest').getD (0, rest')
    let mantissa := numberOf 10 (whole ++ fraction)
    if rest''.length = rest.length then none
    else if !negative && overflows mantissa (exponent - fraction.length) then none
    else some rest''

/-! ## dates and times -/

/-- Two digits that write a number from `low` to `high`. -/
def twoDigits? (low high : Nat) : List Char → Option (Nat × List Char)
  | a :: b :: cs =>
    let n := numberOf 10 [a, b]
    if a.isDigit && b.isDigit && low ≤ n && n ≤ high then some (n, cs) else none
  | _ => none

/-- One given character. -/
def one? (c : Char) : List Char → Option (List Char)
  | d :: cs => if d = c then some cs else none
  | [] => none

/-- Days of a month. -/
def daysIn (year month : Nat) : Nat :=
  if month = 2 then
    if year % 4 = 0 ∧ (year % 100 ≠ 0 ∨ year % 400 = 0) then 29 else 28
  else if month = 4 ∨ month = 6 ∨ month = 9 ∨ month = 11 then 30
  else 31

/-- A date, as in `1979-05-27`. -/
def date? : List Char → Option (List Char)
  | a :: b :: c :: d :: '-' :: cs => do
    if [a, b, c, d].all Char.isDigit then
      let (month, cs) ← twoDigits? 1 12 cs
      let cs ← one? '-' cs
      let (_, rest) ← twoDigits? 1 (daysIn (numberOf 10 [a, b, c, d]) month) cs
      some rest
    else none
  | _ => none

/-- A fraction of a second, if there is one. -/
def skipSecondFraction (cs : List Char) : Option (List Char) :=
  match cs with
  | '.' :: d :: rest => if d.isDigit then some (rest.dropWhile Char.isDigit) else none
  | '.' :: [] => none
  | cs => some cs

/-- A time of day, as in `07:32:00.5`. -/
def time? (cs : List Char) : Option (List Char) := do
  let (_, cs) ← twoDigits? 0 23 cs
  let cs ← one? ':' cs
  let (_, cs) ← twoDigits? 0 59 cs
  let cs ← one? ':' cs
  let (_, cs) ← twoDigits? 0 60 cs
  skipSecondFraction cs

/-- A distance from universal time, if there is one. -/
def skipOffset : List Char → Option (List Char)
  | 'Z' :: cs => some cs
  | 'z' :: cs => some cs
  | c :: cs =>
    if c = '+' ∨ c = '-' then do
      let (_, cs) ← twoDigits? 0 23 cs
      let cs ← one? ':' cs
      let (_, cs) ← twoDigits? 0 59 cs
      some cs
    else some (c :: cs)
  | [] => some []

/-- A date, a time, or a date with a time after it. -/
def moment? (cs : List Char) : Option (List Char) :=
  match date? cs with
  | none => time? cs
  | some rest =>
    match rest with
    | c :: cs =>
      if c = 'T' ∨ c = 't' ∨ c = ' ' then
        match time? cs with
        | some cs => skipOffset cs
        | none => some rest
      else some rest
    | [] => some []

/-- A number: a float or an integer. -/
def number? (cs : List Char) : Option (List Char) := float? cs <|> integer? cs

end PascalTokens.Toml
