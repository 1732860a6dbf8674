import PascalTokens.Files.FileTree
import PascalTokens.Host

/-!
# PascalTokens.Host.World

A place for commands to run that is a value: a file tree, a working directory
in it, environment variables, what is on standard input, and what has been
written to the two output streams.
-/

namespace PascalTokens

/-- All that a command can see and change. -/
structure World where
  files : FileTree := {}
  /-- The place that paths without a slash in front start from. -/
  workingDirectory : Place := []
  environment : List (String × String) := []
  input : ByteArray := ByteArray.empty
  output : String := ""
  errors : String := ""

namespace World

/-- The path of a place from the root. -/
def pathOf (place : Place) : String := "/" ++ "/".intercalate place

/-- What is done to the files of a world, if it can be done. -/
def change (w : World) : Except FileError FileTree → Except FileError Unit × World
  | .ok files => (.ok (), { w with files })
  | .error e => (.error e, w)

/-- What a path leads to in a world, if it leads anywhere. -/
def kind? (w : World) (path : String) : Option FileKind :=
  match w.files.find w.workingDirectory path with
  | .ok (.file _) => some .file
  | .ok .directory => some .directory
  | .error _ => none

instance : Host (StateM World) where
  readFile path := do return (← get).files.read (← get).workingDirectory path
  writeFile path content := modifyGet fun w =>
    w.change (w.files.write w.workingDirectory path content)
  makeDirectory path := modifyGet fun w =>
    w.change (w.files.makeDirectory w.workingDirectory path)
  kind? path := do return (← get).kind? path
  workingDirectory := do return pathOf (← get).workingDirectory
  lookupVariable name := do return (← get).environment.lookup name
  readInput := do return (← get).input
  writeOutput text := modify fun w => { w with output := w.output ++ text }
  writeError text := modify fun w => { w with errors := w.errors ++ text }

end World

end PascalTokens
