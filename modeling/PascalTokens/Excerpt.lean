import PascalTokens.Region
import PascalTokens.Text.Lines
import PascalTokens.Text.Padding

/-!
# PascalTokens.Excerpt

The source line under a message, with carets under the stretch of it that the
message is about.  A region that reaches over several lines is shown by what
it has of its first one.
-/

namespace PascalTokens

/-- A source line with a stretch of it marked. -/
structure Excerpt where
  line : String
  /-- Number of the line, from one. -/
  lineNumber : Nat
  /-- First marked column, from one. -/
  startColumn : Nat
  /-- First column after the marked ones. -/
  endColumn : Nat
deriving DecidableEq, Repr

namespace Excerpt

/-- The excerpt for a region of a source; `none` if the region has no line
there. -/
def ofRegion? (source : List Char) (region : Region) : Option Excerpt :=
  if region.line = 0 then none
  else (Text.lines source)[region.line.toNat - 1]?.map fun line =>
    let start := region.column.toNat
    let marked := ((region.text? source).map fun text => (Text.firstLine text).length).getD 0
    { line := String.ofList line
      lineNumber := region.line.toNat
      startColumn := start
      endColumn := min (start + marked) (line.length + 1) }

/-- Columns of the gutter: as wide as the line number, and three at least. -/
def gutterWidth (e : Excerpt) : Nat := max 3 (toString e.lineNumber).length

/-- The line with its number in front. -/
def sourceRow (e : Excerpt) : String :=
  Text.alignRight e.gutterWidth ' ' (toString e.lineNumber) ++ " | " ++ e.line

/-- The row of carets under the line: one caret at least. -/
def caretRow (e : Excerpt) : String :=
  Text.repeated e.gutterWidth ' ' ++ " | " ++ Text.repeated (e.startColumn - 1) ' ' ++
    Text.repeated (max 1 (e.endColumn - e.startColumn)) '^'

/-- The two rows of an excerpt. -/
def format (e : Excerpt) : String := e.sourceRow ++ "\n" ++ e.caretRow

end Excerpt

end PascalTokens
