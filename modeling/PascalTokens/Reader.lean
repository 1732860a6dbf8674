import PascalTokens.Alphabet
import PascalTokens.Position
import PascalTokens.Text.Encoding

/-!
# PascalTokens.Reader

A forward-only reading of a source text.  A reader holds what it has read,
what is still ahead, and the position between the two.

Past the end a reader sees the character NUL, so that every look ahead has an
answer; `atEnd` tells that apart from a NUL in the source.
-/

namespace PascalTokens

/-- A place of reading in a source text. -/
structure Reader where
  /-- The characters already read, the latest first. -/
  behind : List Char := []
  /-- The characters still to be read. -/
  ahead : List Char
  /-- Where the reader stands. -/
  position : Position := {}

namespace Reader

/-- A reader at the start of a text. -/
def ofList (source : List Char) : Reader := { ahead := source }

/-- The whole text, read or not. -/
def source (r : Reader) : List Char := r.behind.reverse ++ r.ahead

/-- Whether everything has been read. -/
def atEnd (r : Reader) : Bool := r.ahead.isEmpty

/-- The character `n` places ahead; NUL past the end.  Up to the first character
that is not ASCII it is found by its byte, and by counting otherwise. -/
def peek (r : Reader) (n : Nat) : Char :=
  match Text.asciiAt? n (Text.encode r.ahead) with
  | some c => c
  | none => (r.ahead[n]?).getD '\x00'

/-- The next character; NUL at the end. -/
def current (r : Reader) : Char := r.peek 0

/-- Reads one character; at the end nothing happens. -/
def advance (r : Reader) : Reader :=
  match r.ahead with
  | [] => r
  | c :: rest => ⟨c :: r.behind, rest, r.position.advance c⟩

/-- Reads `n` characters, or all that are left. -/
def advanceBy (r : Reader) (n : Nat) : Reader :=
  (r.ahead.take n).foldl (fun r _ => r.advance) r

/-- Reads on as long as the next character satisfies `p`. -/
def advanceWhile (r : Reader) (p : Char → Bool) : Reader :=
  (r.ahead.takeWhile p).foldl (fun r _ => r.advance) r

/-- Reads the next character if it is `c`, and says whether it was. -/
def accept (r : Reader) (c : Char) : Bool × Reader :=
  if !r.atEnd && r.current == c then (true, r.advance) else (false, r)

/-- Reads all blanks up to the next character that is none. -/
def skipBlanks (r : Reader) : Reader := r.advanceWhile isBlank

/-- The text read since the byte offset `start`; `none` if the reader has not
come that far or the offset lies inside a character. -/
def since? (r : Reader) (start : Nat) : Option (List Char) :=
  Text.dropBytes? start r.behind.reverse

/-- Counting finds the same character. -/
theorem peek_eq (r : Reader) (n : Nat) : r.peek n = (r.ahead[n]?).getD '\x00' := by
  unfold peek
  split
  · next c h => rw [Text.getElem?_of_asciiAt? h, Option.getD_some]
  · rfl

/-! ## What reading does -/

/-- Reading a stretch of text one character at a time moves it behind. -/
theorem foldl_advance (r : Reader) (text rest : List Char) (h : r.ahead = text ++ rest) :
    text.foldl (fun r _ => r.advance) r =
      ⟨text.reverse ++ r.behind, rest, r.position.after text⟩ := by
  induction text generalizing r with
  | nil => cases r; simp_all
  | cons c text ih =>
      rw [List.foldl_cons, ih r.advance (by simp [advance, h])]
      simp [advance, h]

/-- Reading as many characters as a stretch of text has reads that text. -/
theorem advanceBy_length (r : Reader) (text rest : List Char) (h : r.ahead = text ++ rest) :
    r.advanceBy text.length = ⟨text.reverse ++ r.behind, rest, r.position.after text⟩ := by
  rw [advanceBy, h, List.take_left, foldl_advance r text rest h]

/-- Reading `n` characters takes them from what is ahead. -/
theorem ahead_advanceBy (r : Reader) (n : Nat) : (r.advanceBy n).ahead = r.ahead.drop n := by
  rw [advanceBy, foldl_advance r _ _ (List.take_append_drop n r.ahead).symm]

/-- The position moves over the characters that are read. -/
theorem position_advanceBy (r : Reader) (n : Nat) :
    (r.advanceBy n).position = r.position.after (r.ahead.take n) := by
  rw [advanceBy, foldl_advance r _ _ (List.take_append_drop n r.ahead).symm]

end Reader

end PascalTokens
