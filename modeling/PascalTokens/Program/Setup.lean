import PascalTokens.Config.Store
import PascalTokens.Program.Basic

/-!
# PascalTokens.Program.Setup

The command that writes a default configuration file into a directory, which
is made if it is not there.  A file that is there already is replaced only if
that is asked for.
-/

namespace PascalTokens.Program

variable {m : Type → Type} [Monad m] [Host m] [MonadExceptOf Failure m]

/-- Where a configuration is set up. -/
structure SetupRequest where
  /-- The directory, if it is not the working directory. -/
  directory : Option String := none
  /-- Whether a file that is there already is replaced. -/
  force : Bool := false
deriving DecidableEq, Repr

/-- Makes sure that a directory is there. -/
def ensureDirectory (filter : LogFilter) (path : String) : m Unit := do
  match ← Host.kind? path with
  | none =>
    log filter ⟨.info, .initCommand, "creating directory", [("path", path)]⟩
    Host.orFail (.file path) (← Host.makeDirectories path)
  | some .file => throw (.notADirectory path)
  | some .directory => pure ()

/-- The directory that a configuration is set up in. -/
def SetupRequest.target (r : SetupRequest) : m String :=
  match r.directory with
  | some path => pure path
  | none => Host.workingDirectory

/-- Writes a default configuration file, and tells its path. -/
def setUp (filter : LogFilter) (r : SetupRequest) : m String := do
  announce filter .init
  let directory ← r.target
  ensureDirectory filter directory
  let path := Path.join directory Config.fileName
  if (← Host.pathExists path) && !r.force then throw (.outputExists path)
  Config.saveTo {} path
  log filter ⟨.info, .initCommand, "wrote configuration", [("path", path)]⟩
  return path

end PascalTokens.Program
