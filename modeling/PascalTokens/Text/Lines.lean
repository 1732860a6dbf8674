/-!
# PascalTokens.Text.Lines

The lines of a text.  A line ends at a line feed, which belongs to no line;
one carriage return right before it belongs to the line ending too.  A text
that ends in a line feed has no further, empty line after it, and a carriage
return anywhere else is part of its line.
-/

namespace PascalTokens.Text

/-- A line without the carriage return that stood before its line feed. -/
def dropReturn (line : List Char) : List Char :=
  if line.getLast? = some '\r' then line.dropLast else line

/-- Whether a character is not a line feed, and so belongs to its line. -/
def inLine (c : Char) : Bool := c != '\n'

/-- The lines of a text, in order. -/
def lines (cs : List Char) : List (List Char) :=
  if cs = [] then []
  else match _h : cs.dropWhile inLine with
    | [] => [cs]
    | _ :: rest => dropReturn (cs.takeWhile inLine) :: lines rest
termination_by cs.length
decreasing_by
  have := congrArg List.length _h
  have := (List.dropWhile_suffix (l := cs) inLine).length_le
  simp at *
  omega

/-- The first line of a text; an empty text has an empty one. -/
def firstLine (cs : List Char) : List Char := (lines cs).headD []

end PascalTokens.Text
