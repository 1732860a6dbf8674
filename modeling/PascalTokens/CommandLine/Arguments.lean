import PascalTokens.CommandLine.Switch

/-!
# PascalTokens.CommandLine.Arguments

How arguments are read, before the command and after it.

1. `--name` and `--name=value` are switches by their long names, and `-abc` is
   a row of switches by their short ones.  The rest of a row after a switch
   with a value is that value, an equals sign in front aside.
2. A switch with a value that has none in the same argument takes the next
   one, unless that is itself a switch.
3. After `--` all arguments are operands, and so are those that are no
   switches and no values, a lone `-` among them.
4. A switch counts once.
5. Before the command the first operand is the command.

Arguments count from left to right, and the first one that ends the reading
decides; a value in an argument of its own is judged when the next switch or
operand comes, or at the end.
-/

namespace PascalTokens.CommandLine

/-- What is wrong with a command line. -/
inductive UsageError
  | unknownSwitch (text : String)
  | unknownCommand (name : String)
  | unexpectedOperand (text : String)
  | missingCommand
  | missingInput
  | repeated (s : Switch)
  | missingValue (s : Switch)
  | unexpectedValue (s : Switch)
  | badValue (s : Switch) (value : String)
  | badVariable (name value : String)
deriving DecidableEq, Repr

namespace UsageError

/-- A piece of a command line in quotes. -/
def quoted (text : String) : String := "'" ++ text ++ "'"

/-- The text shown for a wrong command line. -/
def message : UsageError → String
  | unknownSwitch text => "unexpected argument " ++ quoted text
  | unknownCommand name => "unrecognized command " ++ quoted name
  | unexpectedOperand text => "unexpected argument " ++ quoted text
  | missingCommand => "a command is required"
  | missingInput => "an input is required"
  | repeated s => quoted s.display ++ " cannot be used multiple times"
  | missingValue s => "a value is required for " ++ quoted s.display
  | unexpectedValue s => quoted s.display ++ " takes no value"
  | badValue s value => "invalid value " ++ quoted value ++ " for " ++ quoted s.display
  | badVariable name value => "invalid value " ++ quoted value ++ " in " ++ quoted name

end UsageError

/-- Why the reading of a command line ends without something to run. -/
inductive Stop
  | wrong (e : UsageError)
  /-- The version is asked for, of the program or a command. -/
  | version (command : Option CommandName)
  /-- Help is asked for, on the program or a command. -/
  | help (command : Option CommandName)
deriving DecidableEq, Repr

/-- What has been read of some arguments. -/
structure Arguments where
  /-- The switches with their values, or nothing. -/
  given : List (Switch × String) := []
  /-- A switch whose value stands alone, and the value if it has come. -/
  awaiting : Option (Switch × Option String) := none
  operands : List String := []
deriving DecidableEq, Repr

namespace Arguments

/-- Whether a switch is given. -/
def has (a : Arguments) (s : Switch) : Bool := (a.given.lookup s).isSome

/-- The value given to a switch. -/
def value? (a : Arguments) (s : Switch) : Option String := a.given.lookup s

/-- Takes a switch and its value, or nothing. -/
def add (a : Arguments) (s : Switch) (value : String) : Except Stop Arguments :=
  if a.has s then .error (.wrong (.repeated s))
  else if s.allows value then .ok { a with given := a.given ++ [(s, value)] }
  else .error (.wrong (.badValue s value))

/-- Judges the value that stood alone, if there is one. -/
def settle (a : Arguments) : Except Stop Arguments :=
  match a.awaiting with
  | none => .ok a
  | some (s, none) => .error (.wrong (.missingValue s))
  | some (s, some value) => { a with awaiting := none }.add s value

/-- Whether the next argument is a value unless it is a switch. -/
def wantsValue (a : Arguments) : Bool :=
  match a.awaiting with
  | some (_, none) => true
  | _ => false

/-- Takes a value that stands alone. -/
def offer (a : Arguments) (value : String) : Arguments :=
  { a with awaiting := a.awaiting.map fun (s, _) => (s, some value) }

/-- Takes a switch, with the value in the same argument if there is one. -/
def take (a : Arguments) (command : Option CommandName) (s : Switch) (value : Option String) :
    Except Stop Arguments :=
  match s.value, value with
  | .nothing, some _ => .error (.wrong (.unexpectedValue s))
  | .nothing, none => do
    let a ← a.settle
    match s with
    | .help => .error (.help command)
    | .version => .error (.version command)
    | s => a.add s ""
  | _, some value => do (← a.settle).add s value
  | _, none => do return { ← a.settle with awaiting := some (s, none) }

/-- Takes a switch by its long name, with the value after an equals sign. -/
def takeLong (a : Arguments) (command : Option CommandName) (text : List Char) :
    Except Stop Arguments :=
  let name := String.ofList (text.takeWhile (· != '='))
  let value := (text.dropWhile (· != '=')).tail?.map String.ofList
  match (Switch.known command).find? (·.long == name) with
  | some s => a.take command s value
  | none => .error (.wrong (.unknownSwitch ("--" ++ name)))

/-- Takes a row of switches by their short names. -/
def takeRow (a : Arguments) (command : Option CommandName) : List Char → Except Stop Arguments
  | [] => .ok a
  | c :: row =>
    match (Switch.known command).find? (·.short? == some c) with
    | none => .error (.wrong (.unknownSwitch ("-" ++ String.singleton c)))
    | some s =>
      if s.value = .nothing then do
        (← a.take command s none).takeRow command row
      else
        match row with
        | [] => a.take command s none
        | '=' :: value => a.take command s (some (String.ofList value))
        | value => a.take command s (some (String.ofList value))

/-- Takes an operand, of which only one command has one. -/
def takeOperand (a : Arguments) (command : Option CommandName) (text : String) :
    Except Stop Arguments :=
  match command, a.operands with
  | some .lex, [] => do
    let a ← a.settle
    .ok { a with operands := [text] }
  | none, _ => .error (.wrong (.unknownCommand text))
  | _, _ => .error (.wrong (.unexpectedOperand text))

/-- Reads arguments after which there is no command, from `--` on. -/
def readOperands (a : Arguments) (command : Option CommandName) :
    List String → Except Stop Arguments
  | [] => a.settle
  | text :: rest => do (← a.takeOperand command text).readOperands command rest

/-- Reads the arguments after a command. -/
def read (a : Arguments) (command : CommandName) : List String → Except Stop Arguments
  | [] => a.settle
  | text :: rest =>
    match text.toList with
    | ['-', '-'] => a.readOperands command rest
    | '-' :: '-' :: long => do (← a.takeLong command long).read command rest
    | '-' :: c :: row => do (← a.takeRow command (c :: row)).read command rest
    | _ =>
      if a.wantsValue then (a.offer text).read command rest
      else do (← a.takeOperand command text).read command rest

/-- The name of the command that asks for help. -/
def helpName : String := "help"

/-- What asks for help, on the command that is named after it. -/
def helpOn : List String → Stop
  | [] => .help none
  | [name] =>
    match CommandName.ofName? name with
    | some command => .help command
    | none => if name = helpName then .help none else .wrong (.unknownCommand name)
  | name :: next :: _ =>
    .wrong (.unknownCommand
      (if (CommandName.ofName? name).isSome || name = helpName then next else name))

/-- Reads the arguments up to the command.  The arguments after it are left,
and a value that stands right before it is not judged yet. -/
def readCommand (a : Arguments) : List String → Except Stop (Arguments × CommandName × List String)
  | [] => do
    let _ ← a.settle
    .error (.wrong .missingCommand)
  | text :: rest =>
    match text.toList with
    | ['-', '-'] => do
      let _ ← a.readOperands none rest
      .error (.wrong .missingCommand)
    | '-' :: '-' :: long => do (← a.takeLong none long).readCommand rest
    | '-' :: c :: row => do (← a.takeRow none (c :: row)).readCommand rest
    | _ =>
      if a.wantsValue then (a.offer text).readCommand rest
      else if text = helpName then .error (helpOn rest)
      else
        match CommandName.ofName? text with
        | some command => .ok (a, command, rest)
        | none => .error (.wrong (.unknownCommand text))

end Arguments

end PascalTokens.CommandLine
