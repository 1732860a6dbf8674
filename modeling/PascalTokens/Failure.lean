import PascalTokens.Files.FileError

/-!
# PascalTokens.Failure

What stops a command.  Faults of a source do not: they end up in its report.
-/

namespace PascalTokens

/-- Why a command failed. -/
inductive Failure
  /-- The configuration file that was asked for is not there. -/
  | configMissing (path : String)
  /-- A configuration file holds no configuration. -/
  | configInvalid (path : String)
  /-- A configuration was to be put into something that is no directory. -/
  | notADirectory (path : String)
  /-- Something could not be done to a named file. -/
  | file (path : String) (cause : FileError)
  /-- There is no text in a source. -/
  | emptySource (origin : String)
  /-- A file is there already and was not to be replaced. -/
  | outputExists (path : String)
  /-- Standard input could not be read. -/
  | input (cause : FileError)
deriving DecidableEq, Repr

namespace Failure

/-- What is said of a document that is no configuration. -/
def invalidDocument : String := ": not a document of settings"

/-- The text shown for a failure. -/
def message : Failure → String
  | configMissing path => "Configuration error: Configuration file not found: " ++ path
  | configInvalid path => "Configuration error: Failed to parse " ++ path ++ invalidDocument
  | notADirectory path => "Configuration error: Target is not a directory: " ++ path
  | file path cause => "File operation failed: " ++ path ++ ": " ++ cause.message
  | emptySource origin => "No source to analyze: " ++ origin ++ " is empty"
  | outputExists path => path ++ " already exists (use --force to overwrite)"
  | input cause => "IO error: " ++ cause.message

/-- What lies behind a failure, if it comes from a file or stream. -/
def cause? : Failure → Option FileError
  | file _ cause | input cause => some cause
  | _ => none

/-- The messages of a failure and of what lies behind it. -/
def messages (f : Failure) : List String := f.message :: (f.cause?.map FileError.message).toList

end Failure

end PascalTokens
