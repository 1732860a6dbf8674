import PascalTokens.Text.Bytes

/-!
# PascalTokens.Position

A place in a source text: its byte offset, its line, and its column in
characters.  Lines and columns count from one in 32-bit words; a line feed is
the last character of its line.
-/

namespace PascalTokens

/-- A place in a source text. -/
structure Position where
  /-- Bytes before this place. -/
  offset : Nat := 0
  /-- Line number, from one. -/
  line : UInt32 := 1
  /-- Column in characters, from one. -/
  column : UInt32 := 1
deriving DecidableEq, Repr

namespace Position

/-- The place after one more character. -/
def advance (p : Position) (c : Char) : Position :=
  if c = '\n' then ⟨p.offset + c.utf8Size, p.line + 1, 1⟩
  else ⟨p.offset + c.utf8Size, p.line, p.column + 1⟩

/-- The place after a stretch of text. -/
def after (p : Position) (text : List Char) : Position := text.foldl advance p

@[simp] theorem after_nil (p : Position) : p.after [] = p := rfl

@[simp] theorem after_cons (p : Position) (c : Char) (text : List Char) :
    p.after (c :: text) = (p.advance c).after text := rfl

/-- Two texts one after the other lead to where both together lead. -/
@[simp] theorem after_append (p : Position) (xs ys : List Char) :
    p.after (xs ++ ys) = (p.after xs).after ys := by
  simp [after]

/-- A character moves the offset on by its bytes. -/
@[simp] theorem offset_advance (p : Position) (c : Char) :
    (p.advance c).offset = p.offset + c.utf8Size := by
  unfold advance
  split <;> rfl

/-- The offset grows by the bytes of the text. -/
@[simp] theorem offset_after (p : Position) (text : List Char) :
    (p.after text).offset = p.offset + Text.byteLength text := by
  induction text generalizing p with
  | nil => simp
  | cons c text ih => simp [ih, Nat.add_assoc]

end Position

end PascalTokens
