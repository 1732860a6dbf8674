import PascalTokens.Pattern.Set
import PascalTokens.Unicode.Alphabetic
import PascalTokens.Unicode.Numeric
import PascalTokens.Unicode.WhiteSpace

/-!
# PascalTokens.Pattern

Regular expressions, as far as it matters which texts are ones.

A text is read character by character.  Escapes are resolved into signs, and
of the signs

1. `*`, `+` and `?` need something in front of them that they repeat;
2. `(` opens a group and `)` closes it; after the opening may stand
   `?P<name>` or `?<name>`, where no name is used twice, or `?`, flags and a
   colon;
3. `(?flags)` sets flags for what follows in the same group;
4. `[` opens a set;
5. `|` stands between alternatives, each of which may be empty;
6. all others stand for themselves.

There are no counted repetitions, so an opening brace is only found as an
escape or in a set.
-/

namespace PascalTokens

namespace Pattern

/-- A place in a pattern. -/
inductive Place
  /-- Between the parts. -/
  | between
  /-- After the opening of a group. -/
  | opened
  /-- After the opening and a question mark. -/
  | asked
  /-- After a `P` that announces a name. -/
  | announced
  /-- In the name of a group. -/
  | name (read : List Char)
  /-- In flags. -/
  | flags (read : List Char)
  /-- In a set. -/
  | set (position : SetPosition)
deriving DecidableEq, Repr

/-- A place in what a sign is written as. -/
inductive Writing
  /-- Between signs. -/
  | between
  /-- After a backslash. -/
  | escape
  /-- In digits: how many are to come after the next one, and those that have
  been read. -/
  | digits (more : Nat) (read : List Char)
  /-- In a comment, which goes on to the end of the line. -/
  | comment
deriving DecidableEq, Repr

/-- What has been read of a pattern. -/
structure State where
  place : Place := .between
  writing : Writing := .between
  /-- Whether the last part is one that can be repeated. -/
  isRepeatable : Bool := false
  flags : Flags := {}
  /-- The flags in front of each group that is open, the innermost first. -/
  around : List Flags := []
  /-- The names of groups. -/
  names : List (List Char) := []
deriving DecidableEq, Repr

namespace State

/-- Enters a group. -/
def enter (s : State) (flags : Flags) : State :=
  { s with place := .between, isRepeatable := false, flags, around := s.flags :: s.around }

/-- Leaves a group; `none` if none is open. -/
def leave? (s : State) : Option State :=
  match s.around with
  | [] => none
  | flags :: around => some { s with isRepeatable := true, flags, around }

/-- After a part that can be repeated, if it may be used. -/
def pass (s : State) (isAllowed : Bool) : Option State :=
  if isAllowed then some { s with place := .between, isRepeatable := true } else none

/-- Takes a sign between the parts. -/
def stepBetween (s : State) (sign : Sign) : Option State :=
  match sign with
  | .plain '(' => some { s with place := .opened }
  | .plain ')' => s.leave?
  | .plain '|' => some { s with isRepeatable := false }
  | .plain '*' | .plain '+' | .plain '?' => if s.isRepeatable then some s else none
  | .plain '[' => if s.flags.allowsSets then some { s with place := .set {} } else none
  | .plain '{' => none
  | .plain '.' => s.pass s.flags.allowsOthers
  | .plain '^' | .plain '$' => s.pass true
  | sign => s.pass (s.flags.allows sign)

/-- Whether a character can stand in the name of a group, at its front or
further on. -/
def isNameChar (isFront : Bool) (c : Char) : Bool :=
  c == '_' || Unicode.isAlphabetic c ||
    !isFront && (c == '.' || c == '[' || c == ']' || Unicode.isNumeric c)

/-- Takes a sign of the name of a group. -/
def stepName (s : State) (read : List Char) : Sign → Option State
  | .plain '>' =>
    if read.isEmpty || s.names.contains read then none
    else some ({ s with names := read :: s.names }.enter s.flags)
  | .plain c =>
    if isNameChar read.isEmpty c then some { s with place := .name (read ++ [c]) } else none
  | _ => none

/-- Takes a sign of flags, each of which can be given once. -/
def stepFlags (s : State) (read : List Char) : Sign → Option State
  | .plain ':' =>
    if read.getLast? = some '-' then none else some (s.enter (s.flags.change read))
  | .plain ')' =>
    if read.isEmpty || read.getLast? = some '-' then none
    else some { s with place := .between, isRepeatable := false, flags := s.flags.change read }
  | .plain c =>
    if Flags.names.contains c && !read.contains c then
      some { s with place := .flags (read ++ [c]) }
    else none
  | _ => none

/-- Takes a sign in a set. -/
def stepSet (s : State) (position : SetPosition) (sign : Sign) : Option State :=
  if s.flags.allowsInSet sign then do
    let position ← position.step s.flags sign
    if position.place = .ended then s.pass true else some { s with place := .set position }
  else none

/-- Takes a sign. -/
def stepSign (s : State) (sign : Sign) : Option State :=
  match s.place, sign with
  | .between, sign => s.stepBetween sign
  | .opened, .plain '?' => some { s with place := .asked }
  | .opened, sign => (s.enter s.flags).stepBetween sign
  | .asked, .plain 'P' => some { s with place := .announced }
  | .asked, .plain '<' | .announced, .plain '<' => some { s with place := .name [] }
  | .asked, sign => s.stepFlags [] sign
  | .announced, _ => none
  | .name read, sign => s.stepName read sign
  | .flags read, sign => s.stepFlags read sign
  | .set position, sign => s.stepSet position sign

/-- Whether blanks and comments can be left out at a place. -/
def canSkip (s : State) : Bool :=
  s.flags.isSpaced &&
    match s.place with
    | .between | .opened | .set _ => true
    | .asked | .announced | .name _ | .flags _ => false

/-- Takes a character. -/
def step (s : State) (c : Char) : Option State :=
  match s.writing with
  | .between =>
    if c == '\\' then some { s with writing := .escape }
    else if s.canSkip && Unicode.isWhiteSpace c then some s
    else if s.canSkip && c == '#' then some { s with writing := .comment }
    else s.stepSign (.plain c)
  | .escape =>
    match Sign.digits? c with
    | some n => some { s with writing := .digits (n - 1) [] }
    | none => (Sign.ofEscape? c).bind { s with writing := .between }.stepSign
  | .digits (more + 1) read => some { s with writing := .digits more (read ++ [c]) }
  | .digits 0 read =>
    (Sign.ofDigits? (read ++ [c])).bind { s with writing := .between }.stepSign
  | .comment => some (if c == '\n' then { s with writing := .between } else s)

/-- Whether a pattern can end: nothing is left open but a comment. -/
def isFinal (s : State) : Bool :=
  s.place == .between && s.around.isEmpty && (s.writing == .between || s.writing == .comment)

end State

end Pattern

/-- Whether a text is a pattern. -/
def isPattern (text : List Char) : Bool := (text.foldlM Pattern.State.step {}).any (·.isFinal)

namespace Pattern

example : ["", "le?x", "(a|b)*", "(?:a)+?", "[]a-z]", "[^[:b:]-]", "\\.\\x41", "(?P<n>.)", "a]"].all
    (isPattern ·.toList) := by decide +kernel

example : ["*", "a|+", "(a", "a)", "[a", "[z-a]", "\\", "(?)", "(?<n>a)(?<n>b)"].all
    (!isPattern ·.toList) := by decide +kernel

example : ["(?-u)\\d", "(?i-u)a", "(?x)a # (", "(?i).", "((?i))a"].all (isPattern ·.toList) := by
  decide +kernel

example : ["\\d", "(?i)a", "(?-u).", "(?-u:[^a])", "(?x) *", "(?s)*"].all
    (!isPattern ·.toList) := by decide +kernel

end Pattern

end PascalTokens
