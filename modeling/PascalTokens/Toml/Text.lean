import PascalTokens.Text.Hexadecimal

/-!
# PascalTokens.Toml.Text

Strings in TOML documents.  There are four ways to write a string:

1. basic, between `"`, with escapes;
2. literal, between `'`, without escapes and so without `'` and line feeds;
3. basic on several lines, between `"""`, where line feeds and up to two double
   quotes in a row stand for themselves;
4. literal on several lines, between `'''`.

Right after an opening delimiter of three quotes a line feed is dropped.  A
string is written in the plainest way that needs no escapes, and with escapes
if there is none.
-/

namespace PascalTokens.Toml

/-- The ways to write a string. -/
inductive StringStyle
  | basic
  | literal
  | multilineBasic
  | multilineLiteral
deriving DecidableEq, Repr

/-! ## characters -/

/-- Whether a character may stand only as an escape, on one line or several. -/
def isControl (c : Char) : Bool :=
  (c.toNat < 0x20 && c != '\t' && c != '\n') || c == '\x7F'

/-- Whether a character may stand for itself in a basic string of one line. -/
def isBasicChar (c : Char) : Bool := !isControl c && c != '\n' && c != '"' && c != '\\'

/-- Whether a character may stand in a literal string of one line. -/
def isLiteralChar (c : Char) : Bool := !isControl c && c != '\n' && c != '\''

/-! ## writing -/

/-- Length of the longest run of a character. -/
def longestRun (c : Char) (cs : List Char) : Nat := go 0 0 cs
where
  /-- Carries the longest run so far and the run right before. -/
  go (longest run : Nat) : List Char → Nat
    | [] => longest
    | d :: cs => if d = c then go (max longest (run + 1)) (run + 1) cs else go longest 0 cs

/-- The way in which a text is written. -/
def styleOf (cs : List Char) : StringStyle :=
  let plain := !cs.any isControl
  let newline := cs.contains '\n'
  let backslash := cs.contains '\\'
  let singles := longestRun '\'' cs
  let doubles := longestRun '"' cs
  if plain && !backslash && doubles == 0 && !newline then .basic
  else if plain && singles == 0 && !newline then .literal
  else if plain && !backslash && doubles ≤ 2 then .multilineBasic
  else if plain && singles ≤ 2 then .multilineLiteral
  else if newline then .multilineBasic
  else .basic

/-- A hexadecimal digit in upper case. -/
def hexDigit (n : Nat) : Char := (Nat.digitChar (n % 16)).toUpper

/-- A character as it is written in a basic string of one line. -/
def escapeChar (c : Char) : List Char :=
  match c with
  | '\x08' => ['\\', 'b']
  | '\t' => ['\\', 't']
  | '\n' => ['\\', 'n']
  | '\x0C' => ['\\', 'f']
  | '\r' => ['\\', 'r']
  | '"' => ['\\', '"']
  | '\\' => ['\\', '\\']
  | c =>
    if isControl c then ['\\', 'u', '0', '0', hexDigit (c.toNat / 16), hexDigit c.toNat]
    else [c]

/-- A text as it is written in a basic string of several lines, after `quotes`
double quotes in a row.  A third one is escaped. -/
def escapeMultiline (quotes : Nat) : List Char → List Char
  | [] => []
  | '"' :: cs =>
    if quotes = 2 then '\\' :: '"' :: escapeMultiline 0 cs
    else '"' :: escapeMultiline (quotes + 1) cs
  | '\n' :: cs => '\n' :: escapeMultiline 0 cs
  | c :: cs => escapeChar c ++ escapeMultiline 0 cs

/-- The line feed after an opening delimiter of three quotes: there if the text
has a line feed itself. -/
def leadingNewline (cs : List Char) : List Char := if cs.contains '\n' then ['\n'] else []

/-- A text as a TOML string. -/
def quoteList (cs : List Char) : List Char :=
  match styleOf cs with
  | .basic => '"' :: cs.flatMap escapeChar ++ ['"']
  | .literal => '\'' :: cs ++ ['\'']
  | .multilineBasic =>
    ['"', '"', '"'] ++ leadingNewline cs ++ escapeMultiline 0 cs ++ ['"', '"', '"']
  | .multilineLiteral =>
    ['\'', '\'', '\''] ++ leadingNewline cs ++ cs ++ ['\'', '\'', '\'']

/-- A text as a TOML string. -/
def quote (s : String) : String := String.ofList (quoteList s.toList)

/-! ## reading -/

/-- Reads an escape, after its backslash. -/
def readEscape? : List Char → Option (Char × List Char)
  | 'b' :: cs => some ('\x08', cs)
  | 't' :: cs => some ('\t', cs)
  | 'n' :: cs => some ('\n', cs)
  | 'f' :: cs => some ('\x0C', cs)
  | 'r' :: cs => some ('\r', cs)
  | '"' :: cs => some ('"', cs)
  | '\\' :: cs => some ('\\', cs)
  | 'u' :: cs => Text.readHex? 4 cs
  | 'U' :: cs => Text.readHex? 8 cs
  | _ => none

/-- An escape takes some text. -/
theorem length_readEscape?_lt {cs rest : List Char} {c : Char}
    (h : readEscape? cs = some (c, rest)) : rest.length < cs.length := by
  unfold readEscape? at h
  split at h <;> grind [→ Text.length_readHex?_le]

/-- Blanks of a line: spaces and tabs. -/
def isSpace (c : Char) : Bool := c == ' ' || c == '\t'

/-- Leaves out blanks and line endings. -/
def skipBlankLines : List Char → List Char
  | '\r' :: '\n' :: cs => skipBlankLines cs
  | '\n' :: cs => skipBlankLines cs
  | ' ' :: cs => skipBlankLines cs
  | '\t' :: cs => skipBlankLines cs
  | cs => cs

/-- Skipping blank lines leaves no more text than there was. -/
theorem length_skipBlankLines_le (cs : List Char) : (skipBlankLines cs).length ≤ cs.length := by
  fun_induction skipBlankLines cs <;> simp at * <;> omega

/-- A line ending: a line feed, with a carriage return before it perhaps. -/
def newline? : List Char → Option (List Char)
  | '\n' :: cs => some cs
  | '\r' :: '\n' :: cs => some cs
  | _ => none

/-- A line end takes some text. -/
theorem length_newline?_lt {cs rest : List Char} (h : newline? cs = some rest) :
    rest.length < cs.length := by
  unfold newline? at h
  split at h <;> simp only [Option.some.injEq, reduceCtorEq] at h <;> subst h <;>
    simp only [List.length_cons] <;> omega

/-- What follows a backslash that ends a line: the blanks after it, the line
ending, and all blanks and line endings after that are no part of the text. -/
def continuation? (cs : List Char) : Option (List Char) :=
  (newline? (cs.dropWhile isSpace)).map skipBlankLines

/-- A line that is continued takes some text. -/
theorem length_continuation?_lt {cs rest : List Char} (h : continuation? cs = some rest) :
    rest.length < cs.length := by
  obtain ⟨line, hl, rfl⟩ := Option.map_eq_some_iff.1 h
  have := length_newline?_lt hl
  have := length_skipBlankLines_le line
  have := (List.dropWhile_suffix (l := cs) isSpace).length_le
  omega

/-- Reads a basic string of one line after its opening quote; `read` is what
has been read of it, the latest character first. -/
def readBasic (read : List Char) (cs : List Char) : Option (List Char × List Char) :=
  match cs with
  | [] => none
  | '"' :: rest => some (read.reverse, rest)
  | '\\' :: rest =>
    match _h : readEscape? rest with
    | some (c, rest) => readBasic (c :: read) rest
    | none => none
  | c :: rest => if isBasicChar c then readBasic (c :: read) rest else none
termination_by cs.length
decreasing_by
  · have := length_readEscape?_lt _h
    simp only [List.length_cons]
    omega
  · simp only [List.length_cons]
    omega

/-- Reads a literal string of one line after its opening quote. -/
def readLiteral (cs : List Char) : Option (List Char × List Char) :=
  match cs.dropWhile isLiteralChar with
  | '\'' :: rest => some (cs.takeWhile isLiteralChar, rest)
  | _ => none

/-- Reads a basic string of several lines after its opening quotes. -/
def readMultilineBasic (read : List Char) (cs : List Char) : Option (List Char × List Char) :=
  match cs with
  | [] => none
  | '"' :: '"' :: '"' :: '"' :: '"' :: rest => some (read.reverse ++ ['"', '"'], rest)
  | '"' :: '"' :: '"' :: '"' :: rest => some (read.reverse ++ ['"'], rest)
  | '"' :: '"' :: '"' :: rest => some (read.reverse, rest)
  | '\r' :: '\n' :: rest => readMultilineBasic ('\n' :: read) rest
  | '\\' :: rest =>
    match _hc : continuation? rest with
    | some rest => readMultilineBasic read rest
    | none =>
      match _he : readEscape? rest with
      | some (c, rest) => readMultilineBasic (c :: read) rest
      | none => none
  | c :: rest =>
    if c = '\n' ∨ c = '"' ∨ isBasicChar c then readMultilineBasic (c :: read) rest else none
termination_by cs.length
decreasing_by
  · simp only [List.length_cons]
    omega
  · have := length_continuation?_lt _hc
    simp only [List.length_cons]
    omega
  · have := length_readEscape?_lt _he
    simp only [List.length_cons]
    omega
  · simp only [List.length_cons]
    omega

/-- Reads a literal string of several lines after its opening quotes. -/
def readMultilineLiteral (read : List Char) : List Char → Option (List Char × List Char)
  | [] => none
  | '\'' :: '\'' :: '\'' :: '\'' :: '\'' :: rest => some (read.reverse ++ ['\'', '\''], rest)
  | '\'' :: '\'' :: '\'' :: '\'' :: rest => some (read.reverse ++ ['\''], rest)
  | '\'' :: '\'' :: '\'' :: rest => some (read.reverse, rest)
  | '\r' :: '\n' :: rest => readMultilineLiteral ('\n' :: read) rest
  | c :: rest =>
    if c = '\n' ∨ c = '\'' ∨ isLiteralChar c then readMultilineLiteral (c :: read) rest else none

/-- The text without one line ending at its start. -/
def dropNewline (cs : List Char) : List Char := (newline? cs).getD cs

/-- Reads a string of any style, if the text starts with one. -/
def readString? : List Char → Option (List Char × List Char)
  | '"' :: '"' :: '"' :: cs => readMultilineBasic [] (dropNewline cs)
  | '"' :: cs => readBasic [] cs
  | '\'' :: '\'' :: '\'' :: cs => readMultilineLiteral [] (dropNewline cs)
  | '\'' :: cs => readLiteral cs
  | _ => none

end PascalTokens.Toml
