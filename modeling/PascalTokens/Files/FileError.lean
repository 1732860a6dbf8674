/-!
# PascalTokens.Files.FileError

What can go wrong with a file, and how a message puts it.
-/

namespace PascalTokens

/-- Why something could not be done to a file or directory. -/
inductive FileError
  /-- A path leads nowhere. -/
  | notFound
  /-- There is something already where a directory is to be made. -/
  | alreadyExists
  /-- A path goes on below a file. -/
  | notADirectory
  /-- A directory was read or written like a file. -/
  | isADirectory
  /-- A name in a path has too many bytes, or the path has. -/
  | nameTooLong
  /-- A path has the character NUL in it. -/
  | nulInName
  /-- The bytes are no text. -/
  | notUtf8
  /-- Something else, as the system describes it. -/
  | other (description : String)
deriving DecidableEq, Repr

namespace FileError

/-- An error of the system: its description and its number. -/
def numbered (description : String) (number : Nat) : String :=
  description ++ " (os error " ++ toString number ++ ")"

/-- The text shown for an error. -/
def message : FileError → String
  | notFound => numbered "No such file or directory" 2
  | alreadyExists => numbered "File exists" 17
  | notADirectory => numbered "Not a directory" 20
  | isADirectory => numbered "Is a directory" 21
  | nameTooLong => numbered "File name too long" 36
  | nulInName => "file name contained an unexpected NUL byte"
  | notUtf8 => "stream did not contain valid UTF-8"
  | other description => description

end FileError

end PascalTokens
