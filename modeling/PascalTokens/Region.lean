import PascalTokens.Position

/-!
# PascalTokens.Region

The stretch of a source that a token or a message is about: a range of byte
offsets, with the line and column of its start for display.
-/

namespace PascalTokens

/-- A stretch of a source text. -/
structure Region where
  /-- Byte offset of the first character. -/
  start : Nat := 0
  /-- Byte offset after the last character. -/
  stop : Nat := 0
  /-- Line of the first character, from one. -/
  line : UInt32 := 0
  /-- Column of the first character, from one. -/
  column : UInt32 := 0
deriving DecidableEq, Repr

namespace Region

/-- The region of messages that are about no place in particular. -/
def nowhere : Region := {}

/-- An empty region that only names a line and a column. -/
def point (line column : UInt32) : Region := ⟨0, 0, line, column⟩

/-- The region from one place to a later one. -/
def between (start stop : Position) : Region :=
  ⟨start.offset, stop.offset, start.line, start.column⟩

/-- Whether the region covers no bytes. -/
def isEmpty (r : Region) : Bool := r.start == r.stop

/-- Bytes in the region; a reversed region has none. -/
def length (r : Region) : Nat := r.stop - r.start

/-- Whether a byte offset lies in the region. -/
def contains (r : Region) (offset : Nat) : Bool := r.start ≤ offset && offset < r.stop

/-- The text of the region; `none` if the region is reversed, reaches past the
source, or cuts a character. -/
def text? (r : Region) (source : List Char) : Option (List Char) :=
  if r.start ≤ r.stop then do
    let tail ← Text.dropBytes? r.start source
    Text.takeBytes? r.length tail
  else none

/-- Line and column, as they are shown. -/
def display (r : Region) : String :=
  toString r.line.toNat ++ ":" ++ toString r.column.toNat

instance : ToString Region := ⟨display⟩

/-- The region between the two ends of a stretch of text covers that text. -/
theorem text?_between (p : Position) (before text after : List Char)
    (h : p.offset = Text.byteLength before) :
    (between p (p.after text)).text? (before ++ text ++ after) = some text := by
  simp [between, text?, length, h, List.append_assoc]

end Region

end PascalTokens
