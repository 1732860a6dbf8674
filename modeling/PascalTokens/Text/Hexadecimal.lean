/-!
# PascalTokens.Text.Hexadecimal

Characters named by the hexadecimal digits of their code points.
-/

namespace PascalTokens.Text

/-- The value of a hexadecimal digit. -/
def hexValue? (c : Char) : Option Nat :=
  if isDigitFrom '0' '9' then some (c.toNat - '0'.toNat)
  else if isDigitFrom 'a' 'f' then some (c.toNat - 'a'.toNat + 10)
  else if isDigitFrom 'A' 'F' then some (c.toNat - 'A'.toNat + 10)
  else none
where
  /-- Whether the digit lies in a range. -/
  isDigitFrom (first last : Char) : Bool := first.toNat ≤ c.toNat && c.toNat ≤ last.toNat

/-- The number that hexadecimal digits write. -/
def hexNumber? (digits : List Char) : Option Nat :=
  digits.foldlM (fun n c => (hexValue? c).map (16 * n + ·)) 0

/-- The character that hexadecimal digits name; surrogates and numbers past the
last code point name none. -/
def hexChar? (digits : List Char) : Option Char := do
  let n ← hexNumber? digits
  if n.isValidChar then some (Char.ofNat n) else none

/-- Reads a character that is named by `n` hexadecimal digits. -/
def readHex? (n : Nat) (cs : List Char) : Option (Char × List Char) :=
  if n ≤ cs.length then (hexChar? (cs.take n)).map (·, cs.drop n) else none

/-- Reading hexadecimal digits leaves no more text than there was. -/
theorem length_readHex?_le {n : Nat} {cs rest : List Char} {c : Char}
    (h : readHex? n cs = some (c, rest)) : rest.length ≤ cs.length := by
  unfold readHex? at h
  split at h
  · obtain ⟨_, -, heq⟩ := Option.map_eq_some_iff.1 h
    obtain ⟨-, rfl⟩ := Prod.mk.inj heq
    simp
  · simp at h

end PascalTokens.Text
