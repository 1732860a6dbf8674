import PascalTokens.Region
import PascalTokens.Text.Lines

/-!
# PascalTokens.Proofs.Places

Places counted from the text before them.  A position is kept in step with the
text that is read, one character at a time; `Position.StandsAfter` says what its
three numbers are in terms of all the text before it, and `StandsAfter.after` is
that it stays so, as long as no 32-bit counter runs over.  `Region.Shows` says
the same of the region of a text.
-/

namespace PascalTokens

namespace Text

/-- The line on which a text goes on, from one. -/
def lineNumber (before : List Char) : Nat := before.count '\n' + 1

/-- The column at which a text goes on, from one. -/
def columnNumber (before : List Char) : Nat := (before.reverse.takeWhile inLine).length + 1

/-- A line feed ends the line. -/
theorem lineNumber_append_singleton (before : List Char) (c : Char) :
    lineNumber (before ++ [c]) = lineNumber before + if c = '\n' then 1 else 0 := by
  by_cases h : c = '\n' <;> simp [lineNumber, h]

/-- A line feed goes back to the first column, and every other character takes one. -/
theorem columnNumber_append_singleton (before : List Char) (c : Char) :
    columnNumber (before ++ [c]) = if c = '\n' then 1 else columnNumber before + 1 := by
  by_cases h : c = '\n' <;> simp [columnNumber, inLine, List.takeWhile_cons, h]

/-- There are no more lines than characters and one. -/
theorem lineNumber_le (before : List Char) : lineNumber before ≤ before.length + 1 :=
  Nat.succ_le_succ List.count_le_length

/-- There are no more columns than characters and one. -/
theorem columnNumber_le (before : List Char) : columnNumber before ≤ before.length + 1 := by
  have hle := (List.takeWhile_sublist (l := before.reverse) inLine).length_le
  rw [List.length_reverse] at hle
  exact Nat.succ_le_succ hle

end Text

namespace Position

/-- Whether a position is that of the place after a text. -/
structure StandsAfter (p : Position) (before : List Char) : Prop where
  offset : p.offset = Text.byteLength before
  line : p.line.toNat = Text.lineNumber before
  column : p.column.toNat = Text.columnNumber before

/-- The first place stands after nothing. -/
theorem standsAfter_nil : ({} : Position).StandsAfter [] := ⟨rfl, rfl, rfl⟩

variable {p : Position} {before : List Char}

/-- A place moved over a character stands after it, as long as lines and columns can be
counted. -/
theorem StandsAfter.advance (h : p.StandsAfter before) (c : Char)
    (hlength : (before ++ [c]).length < UInt32.size - 1) :
    (p.advance c).StandsAfter (before ++ [c]) := by
  have hline := Text.lineNumber_le before
  have hcolumn := Text.columnNumber_le before
  rw [List.length_append, List.length_singleton, UInt32.size] at hlength
  obtain ⟨hp, hl, hc⟩ := h
  constructor
  · rw [offset_advance, hp, Text.byteLength_append]
    rfl
  · rw [Text.lineNumber_append_singleton, ← hl]
    unfold Position.advance
    split
    · rw [UInt32.toNat_add, UInt32.toNat_one]
      omega
    · rfl
  · rw [Text.columnNumber_append_singleton, ← hc]
    unfold Position.advance
    split
    · rfl
    · rw [UInt32.toNat_add, UInt32.toNat_one]
      omega

/-- A position stays in step with the text that is read. -/
theorem StandsAfter.after (h : p.StandsAfter before) (text : List Char)
    (hlength : (before ++ text).length < UInt32.size - 1) :
    (p.after text).StandsAfter (before ++ text) := by
  induction text generalizing p before with
  | nil => simpa using h
  | cons c text ih =>
      rw [List.append_cons] at hlength ⊢
      rw [List.length_append] at hlength
      refine ih (h.advance c (by omega)) (by rwa [List.length_append])

end Position

/-- Whether a region is that of a text which stands after another: it covers the
bytes of the text, and names the line and the column of its first character. -/
structure Region.Shows (region : Region) (before text : List Char) : Prop where
  start : region.start = Text.byteLength before
  stop : region.stop = Text.byteLength before + Text.byteLength text
  line : region.line.toNat = Text.lineNumber before
  column : region.column.toNat = Text.columnNumber before

/-- The region between the places before and behind a text shows the text. -/
theorem Region.shows_between {p : Position} {before : List Char} (h : p.StandsAfter before)
    (text : List Char) : (Region.between p (p.after text)).Shows before text where
  start := h.offset
  stop := by rw [between, Position.offset_after, h.offset]
  line := h.line
  column := h.column

/-- The text that a region shows is the text of the region. -/
theorem Region.Shows.text?_eq {region : Region} {source before text after : List Char}
    (h : region.Shows before text) (hsource : source = before ++ text ++ after) :
    region.text? source = some text := by
  have hlength : region.length = Text.byteLength text := by
    rw [length, h.start, h.stop, Nat.add_sub_cancel_left]
  rw [text?, if_pos (by rw [h.start, h.stop]; omega), h.start, hlength, hsource,
    List.append_assoc, Text.dropBytes?_append]
  exact Text.takeBytes?_append text after

end PascalTokens
