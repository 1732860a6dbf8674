import PascalTokens.Toml.Item
import PascalTokens.Toml.Scalar

/-!
# PascalTokens.Toml.Document

Reading TOML documents (version 1.0).  A document is a sequence of lines:
blank ones, comments, headers of tables and of arrays of tables, and entries
of the table whose header came last.

Arrays and inline tables may be nested `nestingLimit` deep, and a key may have
as many dotted parts.  The limit is also what the recursion runs on.
-/

namespace PascalTokens.Toml

/-- How deep arrays and inline tables may be nested, and how many parts a dotted
key may have. -/
def nestingLimit : Nat := 79

/-! ## lines and comments -/

/-- Whether a character may stand in a comment. -/
def isCommentChar (c : Char) : Bool := !isControl c && c != '\n'

/-- The text without blanks in front. -/
def skipSpaces (cs : List Char) : List Char := cs.dropWhile isSpace

/-- The text after a line: nothing but blanks and a comment may be left on it. -/
def endLine? (cs : List Char) : Option (List Char) :=
  let cs := skipSpaces cs
  let cs := match cs with
    | '#' :: comment => comment.dropWhile isCommentChar
    | cs => cs
  match cs with
  | [] => some []
  | cs => newline? cs

/-- The text after blanks, line endings and comments, as they may stand between
the items of an array.  A comment there ends with its line. -/
def skipTrivia? (inComment : Bool) : List Char → Option (List Char)
  | '\n' :: cs => skipTrivia? false cs
  | '\r' :: '\n' :: cs => skipTrivia? false cs
  | c :: cs =>
    if inComment then if isCommentChar c then skipTrivia? true cs else none
    else if isSpace c then skipTrivia? false cs
    else if c = '#' then skipTrivia? true cs
    else some (c :: cs)
  | [] => if inComment then none else some []

/-! ## keys -/

/-- Whether a character may stand in a key without quotes. -/
def isBareKeyChar (c : Char) : Bool := c.isAlphanum || c == '-' || c == '_'

/-- A key without dots. -/
def simpleKey? : List Char → Option (String × List Char)
  | '"' :: cs => (readBasic [] cs).map fun (key, rest) => (String.ofList key, rest)
  | '\'' :: cs => (readLiteral cs).map fun (key, rest) => (String.ofList key, rest)
  | cs =>
    match cs.takeWhile isBareKeyChar with
    | [] => none
    | key => some (String.ofList key, cs.dropWhile isBareKeyChar)

/-- The parts of a dotted key, with blanks around them; `parts` are those before,
the latest first. -/
def keyParts? (limit : Nat) (parts : List String) (cs : List Char) :
    Option (List String × List Char) :=
  match limit with
  | 0 => none
  | limit + 1 => do
    let (part, rest) ← simpleKey? (skipSpaces cs)
    match skipSpaces rest with
    | '.' :: rest => keyParts? limit (part :: parts) rest
    | rest => some ((part :: parts).reverse, rest)

/-- A dotted key: the parts that lead to a table, the last part, and the text
after the key. -/
def key? (cs : List Char) : Option (List String × String × List Char) := do
  let (parts, rest) ← keyParts? nestingLimit [] cs
  let last ← parts.getLast?
  some (parts.dropLast, last, rest)

/-! ## values -/

/-- A word of fixed spelling. -/
def word? (word : List Char) (cs : List Char) : Option (List Char) :=
  if word.isPrefixOf cs then some (cs.drop word.length) else none

/-- A value that is no array and no inline table. -/
def scalar? (cs : List Char) : Option (Item × List Char) :=
  match readString? cs with
  | some (s, rest) => some (.string (String.ofList s), rest)
  | none =>
    match word? ['t', 'r', 'u', 'e'] cs, word? ['f', 'a', 'l', 's', 'e'] cs with
    | some rest, _ => some (.boolean true, rest)
    | none, some rest => some (.boolean false, rest)
    | none, none =>
      match moment? cs with
      | some rest => some (.moment, rest)
      | none => (number? cs).map (.number, ·)

/-- The items of an array after its opening bracket or a comma.  `items` are
those before, the latest first, and `value?` reads an item. -/
def arrayItems? (value? : List Char → Option (Item × List Char)) (items : List Item)
    (cs : List Char) : Option (List Item × List Char) :=
  match skipTrivia? false cs with
  | some (']' :: rest) => some (items.reverse, rest)
  | some start =>
    match value? start with
    | some (item, rest) =>
      match skipTrivia? false rest with
      | some (',' :: rest) =>
        if rest.length < cs.length then arrayItems? value? (item :: items) rest else none
      | some (']' :: rest) => some ((item :: items).reverse, rest)
      | _ => none
    | none => none
  | none => none
termination_by cs.length

/-- A key, an equals sign and a value. -/
def entry? (value? : List Char → Option (Item × List Char)) (cs : List Char) :
    Option (List String × String × Item × List Char) := do
  let (path, key, rest) ← key? cs
  match rest with
  | '=' :: rest =>
    let (item, rest) ← value? (skipSpaces rest)
    some (path, key, item, rest)
  | _ => none

/-- The entries of an inline table after its opening brace or a comma, added to
those before. -/
def inlineEntries? (value? : List Char → Option (Item × List Char)) (entries : Entries)
    (cs : List Char) : Option (Entries × List Char) :=
  match entry? value? cs with
  | none => none
  | some (path, key, item, rest) =>
    match entries.insert path key item .inline, skipSpaces rest with
    | some entries, '}' :: rest => some (entries, rest)
    | some entries, ',' :: rest =>
      if rest.length < cs.length then inlineEntries? value? entries rest else none
    | _, _ => none
termination_by cs.length

/-- A value, nested up to a limit. -/
def value? : (limit : Nat) → List Char → Option (Item × List Char)
  | limit, '[' :: cs =>
    match limit with
    | 0 => none
    | limit + 1 => (arrayItems? (value? limit) [] cs).map fun (items, rest) => (.array items, rest)
  | limit, '{' :: cs =>
    match limit with
    | 0 => none
    | limit + 1 =>
      match skipSpaces cs with
      | '}' :: rest => some (.table .inline [], rest)
      | _ =>
        (inlineEntries? (value? limit) [] cs).map fun (entries, rest) =>
          (.table .inline entries, rest)
  | _, cs => scalar? cs

/-! ## documents -/

/-- A document as far as it has been read: its entries, and the path of the
header that came last. -/
structure Progress where
  root : Entries := []
  header : List String := []

/-- A header, after its first bracket. -/
def header? (progress : Progress) (cs : List Char) : Option (Progress × List Char) :=
  match cs with
  | '[' :: cs => do
    let (path, key, rest) ← key? cs
    let rest ← word? [']', ']'] rest
    let root ← progress.root.openElement path key
    let rest ← endLine? rest
    some (⟨root, path ++ [key]⟩, rest)
  | cs => do
    let (path, key, rest) ← key? cs
    let rest ← word? [']'] rest
    let root ← progress.root.openTable path key
    let rest ← endLine? rest
    some (⟨root, path ++ [key]⟩, rest)

/-- A line of a document that is not blank. -/
def line? (progress : Progress) (cs : List Char) : Option (Progress × List Char) :=
  match cs with
  | '#' :: _ => (endLine? cs).map (progress, ·)
  | '[' :: rest => header? progress rest
  | cs => do
    let (path, key, item, rest) ← entry? (value? nestingLimit) cs
    let root ← progress.root.insertUnder progress.header path key item
    let rest ← endLine? rest
    some (⟨root, progress.header⟩, rest)

/-- Reads the lines of a document. -/
def lines? (progress : Progress) (cs : List Char) : Option Entries :=
  match skipSpaces cs with
  | [] => some progress.root
  | start =>
    match newline? start with
    | some rest => if rest.length < cs.length then lines? progress rest else none
    | none =>
      match line? progress start with
      | some (progress, rest) => if rest.length < cs.length then lines? progress rest else none
      | none => none
termination_by cs.length

/-- The entries of a document, or nothing if it is no TOML.  A byte-order mark
in front of it is ignored. -/
def parse (document : String) : Option Entries :=
  match document.toList with
  | '\uFEFF' :: cs => lines? {} cs
  | cs => lines? {} cs

end PascalTokens.Toml
