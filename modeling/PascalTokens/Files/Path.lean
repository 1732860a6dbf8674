import PascalTokens.Text.Pieces

/-!
# PascalTokens.Files.Path

Paths as they are written: names with slashes between them.

1. A path that begins with a slash starts at the root, any other one at the
   working directory.
2. Several slashes count as one, and `.` is the directory reached so far; only
   a `.` at the very beginning is a name that a path keeps.
3. `..` is the directory above the one reached.
4. A slash at the end asks for a directory.

A path is kept as it is written, since messages show it like that.
-/

namespace PascalTokens.Path

/-- The names of a path, from the front, without the empty ones. -/
def names (path : String) : List String :=
  ((Text.pieces '/' path.toList).filter (· ≠ [])).map String.ofList

/-- Whether a path starts at the root. -/
def isAbsolute (path : String) : Bool := path.toList.head? == some '/'

/-- Whether a path can only be that of a directory, by its last character. -/
def endsInSlash (path : String) : Bool := path.toList.getLast? == some '/'

/-- A path below another; a path that starts at the root stays as it is. -/
def join (path name : String) : String :=
  if isAbsolute name || path.isEmpty then name
  else if endsInSlash path then path ++ name
  else path ++ "/" ++ name

/-! ## the directories above a path -/

/-- Whether a piece after the first one leads nowhere else. -/
def isIdle (piece : List Char) : Bool := piece.isEmpty || piece == ['.']

/-- The path with a first piece and further ones, the last of them first. -/
def assemble (first : List Char) (later : List (List Char)) : String :=
  match later.dropWhile isIdle with
  | [] => if first.isEmpty then "/" else String.ofList first
  | later => String.ofList (Text.joined '/' (first :: later.reverse))

/-- The directories above the path with a first piece and further ones, the
last of them first. -/
def aboveAll (first : List Char) : List (List Char) → List String
  | [] => if first.isEmpty then [] else [""]
  | piece :: later =>
    if isIdle piece then aboveAll first later
    else assemble first later :: aboveAll first later

/-- The directories above a path, the nearest first.  The last one is the
working directory, which is written as nothing, or the root. -/
def above (path : String) : List String :=
  match Text.pieces '/' path.toList with
  | [] => []
  | first :: later => aboveAll first later.reverse

/-- The directory that a path is in; the root and the empty path are in none. -/
def parent? (path : String) : Option String := (above path).head?

example : above "a/./b/../c/" = ["a/./b/..", "a/./b", "a", ""] := by decide +kernel

example : above "/a//b" = ["/a", "/"] := by decide +kernel

example : above "./z" = [".", ""] := by decide +kernel

end PascalTokens.Path
