/-!
# PascalTokens.Text.Padding

Right-aligned text: blanks or zeros in front, up to a least width.  What is aligned
is mostly a number, which is written in digits only (`notMem_toDigits`).
-/

namespace PascalTokens.Text

/-- `s` with copies of `fill` in front, up to `width` characters. -/
def alignRight (width : Nat) (fill : Char) (s : String) : String :=
  String.ofList (s.toList.leftpad width fill)

/-- A line of `n` copies of a character. -/
def repeated (n : Nat) (c : Char) : String := String.ofList (List.replicate n c)

/-- Padding brings a text to the width that is asked for, and shortens none. -/
theorem length_alignRight (width : Nat) (fill : Char) (s : String) :
    (alignRight width fill s).length = max width s.length := by
  simp [alignRight, List.leftpad, String.length_toList]
  omega

/-- A decimal number is written with digits only. -/
theorem notMem_toDigits {c : Char} (h : c.isDigit = false) (n : Nat) : c ∉ Nat.toDigits 10 n := by
  intro hmem
  rw [Nat.isDigit_of_mem_toDigits (by omega) (by omega) hmem] at h
  exact Bool.noConfusion h

end PascalTokens.Text
