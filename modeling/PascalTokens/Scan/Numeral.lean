import PascalTokens.Alphabet

/-!
# PascalTokens.Scan.Numeral

Number literals, taken apart:

1. a sign `-`, where the caller has found that it is one;
2. ASCII digits;
3. a fraction, which is taken only if a digit follows the point;
4. an exponent `e` or `E`, which is taken with an optional sign whether digits
   follow or not.

A number with a fraction or an exponent is real.  An exponent without digits
leaves it incomplete.
-/

namespace PascalTokens.Scan

/-- The exponent of a number: its mark with the sign, and its digits. -/
structure Exponent where
  mark : List Char
  digits : List Char
deriving DecidableEq, Repr

namespace Exponent

/-- The exponent a text starts with, if it starts with one. -/
def read? : List Char → Option Exponent
  | [] => none
  | c :: cs =>
    if c = 'e' ∨ c = 'E' then
      match cs with
      | '+' :: cs => some ⟨[c, '+'], cs.takeWhile isDigit⟩
      | '-' :: cs => some ⟨[c, '-'], cs.takeWhile isDigit⟩
      | cs => some ⟨[c], cs.takeWhile isDigit⟩
    else none

/-- The text of an exponent. -/
def text (e : Exponent) : List Char := e.mark ++ e.digits

/-- An exponent is the front of the text it was read from. -/
theorem text_isPrefix {cs : List Char} {e : Exponent} (h : read? cs = some e) : e.text <+: cs := by
  have take (mark cs : List Char) : mark ++ cs.takeWhile isDigit <+: mark ++ cs :=
    (List.prefix_append_right_inj _).2 (List.takeWhile_prefix _)
  unfold read? at h
  split at h
  · simp at h
  · split at h
    · split at h <;> obtain rfl := Option.some.inj h
      · exact take [_, '+'] _
      · exact take [_, '-'] _
      · exact take [_] _
    · simp at h

end Exponent

/-- The parts of a number. -/
structure Numeral where
  sign : List Char := []
  whole : List Char
  fraction : List Char := []
  exponent : Option Exponent := none
deriving DecidableEq, Repr

namespace Numeral

/-- The fraction a text starts with, point included. -/
def fractionOf : List Char → List Char
  | '.' :: d :: cs => if isDigit d then '.' :: d :: cs.takeWhile isDigit else []
  | _ => []

/-- Reads the number that a text starts with, after the sign given. -/
def readUnsigned (sign cs : List Char) : Numeral :=
  let afterWhole := cs.dropWhile isDigit
  let fraction := fractionOf afterWhole
  { sign
    whole := cs.takeWhile isDigit
    fraction
    exponent := Exponent.read? (afterWhole.drop fraction.length) }

/-- Reads the number that a text starts with, a sign included. -/
def read : List Char → Numeral
  | '-' :: cs => readUnsigned ['-'] cs
  | cs => readUnsigned [] cs

/-- The text of a number. -/
def text (n : Numeral) : List Char :=
  n.sign ++ n.whole ++ n.fraction ++ (n.exponent.map Exponent.text).getD []

/-- Whether the number is real. -/
def isReal (n : Numeral) : Bool := !n.fraction.isEmpty || n.exponent.isSome

/-- Whether the exponent, if there is one, has digits. -/
def isComplete (n : Numeral) : Bool := n.exponent.all (!·.digits.isEmpty)

/-- A fraction is the front of the text it was read from. -/
theorem fractionOf_isPrefix (cs : List Char) : fractionOf cs <+: cs := by
  unfold fractionOf
  split
  · split
    · exact (List.prefix_append_right_inj ['.', _]).2 (List.takeWhile_prefix _)
    · exact List.nil_prefix
  · exact List.nil_prefix

/-- A number after its sign is the front of the text it was read from. -/
theorem text_readUnsigned_isPrefix (sign cs : List Char) :
    (readUnsigned sign cs).text <+: sign ++ cs := by
  obtain ⟨tail, htail⟩ := fractionOf_isPrefix (cs.dropWhile isDigit)
  have hdrop : (cs.dropWhile isDigit).drop (fractionOf (cs.dropWhile isDigit)).length = tail := by
    conv => lhs; arg 2; rw [← htail]
    exact List.drop_left
  have hexp : (((Exponent.read? tail).map Exponent.text).getD []) <+: tail := by
    cases he : Exponent.read? tail with
    | none => exact List.nil_prefix
    | some e => exact Exponent.text_isPrefix he
  simp only [text, readUnsigned, hdrop, List.append_assoc]
  refine (List.prefix_append_right_inj _).2 ?_
  conv => rhs; rw [← List.takeWhile_append_dropWhile (p := isDigit) (l := cs), ← htail]
  exact (List.prefix_append_right_inj _).2 ((List.prefix_append_right_inj _).2 hexp)

/-- A number is the front of the text it was read from. -/
theorem text_read_isPrefix (cs : List Char) : (read cs).text <+: cs := by
  unfold read
  split
  · exact text_readUnsigned_isPrefix ['-'] _
  · exact text_readUnsigned_isPrefix [] _

end Numeral

end PascalTokens.Scan
