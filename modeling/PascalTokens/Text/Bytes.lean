/-!
# PascalTokens.Text.Bytes

Byte offsets into a text.  A text is a list of characters, and its UTF-8 form
gives every character one to four bytes; a cut at a byte offset exists only
where no character is split.  The main statements are `dropBytes?_append` and
`takeBytes?_append`: a cut at the byte length of the front part gives back
exactly the two parts.
-/

namespace PascalTokens.Text

/-- Bytes of the UTF-8 form of a text. -/
def byteLength : List Char → Nat
  | [] => 0
  | c :: cs => c.utf8Size + byteLength cs

@[simp] theorem byteLength_nil : byteLength [] = 0 := rfl

@[simp] theorem byteLength_cons (c : Char) (cs : List Char) :
    byteLength (c :: cs) = c.utf8Size + byteLength cs := rfl

/-- The bytes of two texts add up. -/
@[simp] theorem byteLength_append (xs ys : List Char) :
    byteLength (xs ++ ys) = byteLength xs + byteLength ys := by
  induction xs with
  | nil => simp
  | cons c xs ih => rw [List.cons_append, byteLength_cons, byteLength_cons, ih, Nat.add_assoc]

/-- What is left of a text after its first `n` bytes; `none` if the text is
shorter or the cut falls inside a character. -/
def dropBytes? : Nat → List Char → Option (List Char)
  | 0, cs => some cs
  | _ + 1, [] => none
  | n + 1, c :: cs => if c.utf8Size ≤ n + 1 then dropBytes? (n + 1 - c.utf8Size) cs else none

/-- The first `n` bytes of a text, under the same condition. -/
def takeBytes? (n : Nat) (cs : List Char) : Option (List Char) :=
  (dropBytes? n cs).map fun rest => cs.take (cs.length - rest.length)

/-- A cut at the start leaves the whole text. -/
@[simp] theorem dropBytes?_zero (cs : List Char) : dropBytes? 0 cs = some cs := by
  cases cs <;> rfl

/-- A cut behind the first character is one in the rest of the text. -/
theorem dropBytes?_cons (n : Nat) (c : Char) (cs : List Char) :
    dropBytes? (c.utf8Size + n) (c :: cs) = dropBytes? n cs := by
  have hpos := c.utf8Size_pos
  obtain ⟨k, hk⟩ : ∃ k, c.utf8Size + n = k + 1 := ⟨c.utf8Size + n - 1, by omega⟩
  rw [hk, dropBytes?, if_pos (by omega), show k + 1 - c.utf8Size = n by omega]

/-- Dropping the bytes of the front part leaves the back part. -/
@[simp] theorem dropBytes?_append (xs ys : List Char) :
    dropBytes? (byteLength xs) (xs ++ ys) = some ys := by
  induction xs with
  | nil => simp
  | cons c cs ih => rw [byteLength_cons, List.cons_append, dropBytes?_cons, ih]

/-- Taking the bytes of the front part gives the front part. -/
@[simp] theorem takeBytes?_append (xs ys : List Char) :
    takeBytes? (byteLength xs) (xs ++ ys) = some xs := by
  simp [takeBytes?]

end PascalTokens.Text
