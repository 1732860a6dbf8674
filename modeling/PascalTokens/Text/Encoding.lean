import PascalTokens.Text.Bytes

/-!
# PascalTokens.Text.Encoding

The UTF-8 form of a text, and a short way to find a character in it.  As long
as all bytes up to a place are ASCII, bytes and characters are counted alike,
and the byte at that place is the character there.  The main statement is
`getElem?_of_asciiAt?`: the short way finds no other character than counting
does.
-/

namespace PascalTokens.Text

/-- The UTF-8 form of a text. -/
def encode (cs : List Char) : List UInt8 := cs.flatMap String.utf8EncodeChar

/-- Whether a byte is an ASCII character by itself. -/
def isAscii (b : UInt8) : Bool := b < 0x80

/-- The bytes up to the one at `n`, that one included; `none` if there is no
such byte. -/
def through? (n : Nat) (bytes : List UInt8) : Option (List UInt8) :=
  if n < bytes.length then some (bytes.take (n + 1)) else none

/-- The byte at `n` as a character, if it and all bytes before it are ASCII. -/
def asciiAt? (n : Nat) (bytes : List UInt8) : Option Char := do
  let b ← bytes[n]?
  let front ← through? n bytes
  if front.all isAscii then some (Char.ofUInt8 b) else none

@[simp] theorem encode_nil : encode [] = [] := rfl

@[simp] theorem encode_cons (c : Char) (cs : List Char) :
    encode (c :: cs) = String.utf8EncodeChar c ++ encode cs := rfl

/-- The UTF-8 forms of two texts stand one after the other. -/
theorem encode_append (xs ys : List Char) : encode (xs ++ ys) = encode xs ++ encode ys :=
  List.flatMap_append

/-- A text has as many bytes as its UTF-8 form. -/
theorem length_encode (cs : List Char) : (encode cs).length = byteLength cs := by
  induction cs with
  | nil => rfl
  | cons c cs ih =>
      rw [encode_cons, List.length_append, String.length_utf8EncodeChar, ih, byteLength_cons]

/-- Where there is a byte, the bytes up to it can be cut off. -/
theorem through?_of_getElem? {n : Nat} {bytes : List UInt8} {b : UInt8} (h : bytes[n]? = some b) :
    through? n bytes = some (bytes.take (n + 1)) := by
  obtain ⟨hlt, -⟩ := List.getElem?_eq_some_iff.1 h
  rw [through?, if_pos hlt]

/-- The short way finds a character exactly if all bytes up to it are ASCII. -/
theorem asciiAt?_eq_some_iff {n : Nat} {bytes : List UInt8} {c : Char} :
    asciiAt? n bytes = some c ↔
      ∃ b, bytes[n]? = some b ∧ (bytes.take (n + 1)).all isAscii = true ∧ Char.ofUInt8 b = c := by
  unfold asciiAt?
  cases hb : bytes[n]? with
  | none => simp
  | some b => simp [through?_of_getElem? hb]

/-- An ASCII character is the one that its byte stands for. -/
theorem ofUInt8_ofNat {c : Char} (h : c.val.toNat ≤ 127) :
    Char.ofUInt8 (UInt8.ofNat c.val.toNat) = c := by
  apply Char.ext
  apply UInt32.toNat_inj.1
  have hval (b : UInt8) : (Char.ofUInt8 b).val = b.toUInt32 := rfl
  have hmod : c.val.toNat % 256 = c.val.toNat := Nat.mod_eq_of_lt (by omega)
  rw [hval, UInt8.toNat_toUInt32, UInt8.toNat_ofNat']
  exact hmod

/-- A byte of the upper half is not ASCII. -/
theorem not_isAscii_ofNat {n : Nat} (hlow : 128 ≤ n) (hhigh : n < 256) :
    isAscii (UInt8.ofNat n) = false := by
  have hmod : (UInt8.ofNat n).toNat = n := by
    rw [UInt8.toNat_ofNat']
    exact Nat.mod_eq_of_lt hhigh
  have hnot : ¬ UInt8.ofNat n < 0x80 := by
    rw [UInt8.lt_iff_toNat_lt, hmod]
    exact Nat.not_lt.2 hlow
  simp [isAscii, hnot]

/-- A character is one ASCII byte, or its first byte is not ASCII. -/
theorem utf8EncodeChar_cases (c : Char) :
    (∃ b, String.utf8EncodeChar c = [b] ∧ Char.ofUInt8 b = c) ∨
      ∃ b bs, String.utf8EncodeChar c = b :: bs ∧ isAscii b = false := by
  unfold String.utf8EncodeChar
  simp only
  split
  · next h => exact .inl ⟨_, rfl, ofUInt8_ofNat h⟩
  · split
    · exact .inr ⟨_, _, rfl, not_isAscii_ofNat (by omega) (by omega)⟩
    · split
      · exact .inr ⟨_, _, rfl, not_isAscii_ofNat (by omega) (by omega)⟩
      · exact .inr ⟨_, _, rfl, not_isAscii_ofNat (by omega) (by omega)⟩

/-- What the short way finds in the bytes of a text is the character of the text
at that place. -/
theorem getElem?_of_asciiAt? {n : Nat} {cs : List Char} {c : Char}
    (h : asciiAt? n (encode cs) = some c) : cs[n]? = some c := by
  obtain ⟨b, hb, hfront, rfl⟩ := asciiAt?_eq_some_iff.1 h
  clear h
  induction cs generalizing n with
  | nil => simp at hb
  | cons d cs ih =>
      obtain ⟨a, hencode, hd⟩ | ⟨a, bytes, hencode, ha⟩ := utf8EncodeChar_cases d
      · rw [encode_cons, hencode, List.singleton_append] at hb hfront
        cases n with
        | zero =>
            obtain rfl := Option.some.inj hb
            exact congrArg some hd.symm
        | succ n =>
            rw [List.take_succ_cons, List.all_cons, Bool.and_eq_true] at hfront
            exact ih hb hfront.2
      -- A character that is not ASCII ends the short way, wherever it was to lead.
      · rw [encode_cons, hencode, List.cons_append, List.take_succ_cons, List.all_cons,
          ha] at hfront
        exact absurd hfront Bool.false_ne_true

/-- The bytes of a text are read as that text. -/
theorem fromUTF8?_toUTF8 (text : String) : String.fromUTF8? text.toUTF8 = some text := by
  rw [String.fromUTF8?, String.toUTF8_eq_toByteArray, dif_pos text.isValidUTF8]
  rfl

end PascalTokens.Text
