import PascalTokens.Failure
import PascalTokens.Files.Path

/-!
# PascalTokens.Host

What the commands need of the place where they run: files, streams and
environment variables.  `World` has all of it as a value, so that a command is
a function on worlds; the program itself runs on the real ones.
-/

namespace PascalTokens

/-- What a path leads to. -/
inductive FileKind
  | file
  | directory
deriving DecidableEq, Repr

/-- A place where commands run. -/
class Host (m : Type → Type) where
  /-- The content of a file. -/
  readFile (path : String) : m (Except FileError ByteArray)
  /-- Gives a file its content, and makes it if it is not there. -/
  writeFile (path : String) (content : ByteArray) : m (Except FileError Unit)
  /-- Makes a directory in one that is there. -/
  makeDirectory (path : String) : m (Except FileError Unit)
  /-- What a path leads to, if it leads anywhere. -/
  kind? (path : String) : m (Option FileKind)
  /-- The path of the working directory. -/
  workingDirectory : m String
  /-- The value of an environment variable. -/
  lookupVariable (name : String) : m (Option String)
  /-- All of standard input. -/
  readInput : m ByteArray
  /-- Writes to standard output. -/
  writeOutput (text : String) : m Unit
  /-- Writes to standard error. -/
  writeError (text : String) : m Unit

namespace Host

/-- A command that may fail runs where the same one would without failing. -/
instance [Monad m] [Host m] : Host (ExceptT ε m) where
  readFile path := ExceptT.lift (readFile path)
  writeFile path content := ExceptT.lift (writeFile path content)
  makeDirectory path := ExceptT.lift (makeDirectory path)
  kind? path := ExceptT.lift (kind? path)
  workingDirectory := ExceptT.lift workingDirectory
  lookupVariable name := ExceptT.lift (lookupVariable name)
  readInput := ExceptT.lift readInput
  writeOutput text := ExceptT.lift (writeOutput text)
  writeError text := ExceptT.lift (writeError text)

variable {m : Type → Type} [Monad m] [Host m]

/-- Whether a path leads anywhere. -/
def pathExists (path : String) : m Bool := Option.isSome <$> kind? path

/-- Whether a path leads to a directory. -/
def isDirectory (path : String) : m Bool := (· == some .directory) <$> kind? path

/-- An error in making a directory is none if the directory is there. -/
def unlessDirectory (path : String) : Except FileError Unit → m (Except FileError Unit)
  | .ok () => pure (.ok ())
  | .error e => do return if ← isDirectory path then .ok () else .error e

/-- Makes the first of some directories, each of them in the next one, and
those of the others that are needed for it. -/
def makeAll : List String → m (Except FileError Unit)
  | [] => pure (.ok ())
  | path :: above => do
    if path.isEmpty then return .ok ()
    match ← makeDirectory path with
    | .error .notFound =>
      match ← makeAll above with
      | .error e => return .error e
      | .ok () => unlessDirectory path (← makeDirectory path)
    | made => unlessDirectory path made

/-- Makes a directory and all that are missing above it. -/
def makeDirectories (path : String) : m (Except FileError Unit) := makeAll (path :: Path.above path)

/-- Bytes as text. -/
def decode (bytes : ByteArray) : Except FileError String :=
  match String.fromUTF8? bytes with
  | some text => .ok text
  | none => .error .notUtf8

variable [MonadExceptOf Failure m]

/-- The value of something done to files, whose errors are failures. -/
def orFail (failure : FileError → Failure) : Except FileError α → m α
  | .ok a => pure a
  | .error e => throw (failure e)

/-- The content of a file as text. -/
def readText (path : String) : m String := do
  let bytes ← orFail (.file path) (← readFile path)
  orFail (.file path) (decode bytes)

/-- Gives a file a text as its content. -/
def writeText (path : String) (text : String) : m Unit := do
  orFail (.file path) (← writeFile path text.toUTF8)

end Host

end PascalTokens
