import PascalTokens.Config
import PascalTokens.Host

/-!
# PascalTokens.Config.Store

Configuration files: where they are looked for, and how they are read and
written.
-/

namespace PascalTokens.Config

variable {m : Type → Type} [Monad m] [Host m] [MonadExceptOf Failure m]

/-- The name of a configuration file. -/
def fileName : String := "pasct.toml"

/-- The name of the directory with the program's files, among those of others. -/
def directoryName : String := "pasct"

/-- The configuration in a file. -/
def loadFrom (path : String) : m Config := do
  if !(← Host.pathExists path) then throw (.configMissing path)
  match parse (← Host.readText path) with
  | some c => return c
  | none => throw (.configInvalid path)

/-- Writes a configuration to a file, and makes the directories above it. -/
def saveTo (c : Config) (path : String) : m Unit := do
  match Path.parent? path with
  | some parent =>
    if !parent.isEmpty then Host.orFail (.file parent) (← Host.makeDirectories parent)
  | none => pure ()
  Host.writeText path c.document

/-- The path of the configuration file in a directory for configurations. -/
def pathUnder (directory : String) : String :=
  Path.join (Path.join directory directoryName) fileName

/-- The files that can hold the configuration, the first choice first: in the
working directory, then under `.config` in the home directory, then in the
directory that is set for configurations, if it is named from the root. -/
def candidates (home configHome : Option String) : List String :=
  let underHome := (home.filter (!·.isEmpty)).map fun home => Path.join home ".config"
  let configured := (configHome.filter Path.isAbsolute).or underHome
  fileName :: (underHome.toList ++ configured.toList).map pathUnder

/-- The first of some paths that leads anywhere. -/
def firstExisting : List String → m (Option String)
  | [] => return none
  | path :: rest => do if ← Host.pathExists path then return some path else firstExisting rest

/-- The configuration from the first file that is there, or the default one. -/
def load : m Config := do
  let home ← Host.lookupVariable "HOME"
  let configHome ← Host.lookupVariable "XDG_CONFIG_HOME"
  match ← firstExisting (candidates home configHome) with
  | some path => loadFrom path
  | none => return {}

end PascalTokens.Config
