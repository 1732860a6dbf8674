import PascalTokens.Program.Run

/-!
# PascalTokens.Main

The program on the files, streams and environment of the process it runs in.
-/

namespace PascalTokens

/-- An error of the system by its number, which may come with its sign turned;
in the system's words if it is none of those that have a name here. -/
def FileError.ofNumber (number : UInt32) (description : String) : FileError :=
  match number.toInt32.toInt.natAbs with
  | 2 => .notFound
  | 17 => .alreadyExists
  | 20 => .notADirectory
  | 21 => .isADirectory
  | 36 => .nameTooLong
  | n => .other (numbered description n)

/-- What went wrong with a file. -/
def FileError.ofSystem (e : IO.Error) : FileError :=
  match e with
  | .alreadyExists _ number description | .otherError number description
  | .resourceBusy number description | .resourceVanished number description
  | .unsupportedOperation number description | .hardwareFault number description
  | .unsatisfiedConstraints number description | .illegalOperation number description
  | .protocolError number description | .timeExpired number description
  | .interrupted _ number description | .noFileOrDirectory _ number description
  | .invalidArgument _ number description | .permissionDenied _ number description
  | .resourceExhausted _ number description | .inappropriateType _ number description
  | .noSuchThing _ number description => .ofNumber number description
  | .unexpectedEof | .userError _ => .other (toString e)

/-- Does something with a file, whose path has to be one that the system can
be given. -/
def withPath (path : String) (action : IO α) : IO (Except FileError α) := do
  if '\x00' ∈ path.toList then return .error .nulInName
  if path.isEmpty then return .error .notFound
  try
    return .ok (← action)
  catch e =>
    return .error (.ofSystem e)

/-- The kind of what a path leads to. -/
def systemKind (path : String) : IO FileKind := do
  let metadata ← ((← IO.currentDir) / path).metadata
  return if metadata.type == .dir then .directory else .file

/-- All that is left of a stream. -/
partial def readAll (stream : IO.FS.Stream) (read : ByteArray) : IO ByteArray := do
  let chunk ← stream.read 65536
  if chunk.isEmpty then return read else readAll stream (read ++ chunk)

instance : Host IO where
  readFile path := withPath path (IO.FS.readBinFile path)
  writeFile path content := withPath path (IO.FS.writeBinFile path content)
  makeDirectory path := withPath path (IO.FS.createDir path)
  kind? path := Except.toOption <$> withPath path (systemKind path)
  workingDirectory := do return (← IO.currentDir).toString
  lookupVariable name := IO.getEnv name
  readInput := do readAll (← IO.getStdin) ByteArray.empty
  writeOutput text := do
    let stream ← IO.getStdout
    stream.putStr text
    stream.flush
  writeError text := IO.eprint text

end PascalTokens

/-- Runs the program with some arguments. -/
def main (arguments : List String) : IO UInt32 := do
  let status : PascalTokens.Program.ExitStatus ← PascalTokens.Program.run arguments
  return UInt32.ofNat status.code
