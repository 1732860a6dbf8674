import PascalTokens.LogFilter
import PascalTokens.Pattern
import PascalTokens.Text.Bytes
import PascalTokens.Text.Pieces
import PascalTokens.Unicode.WhiteSpace

/-!
# PascalTokens.LogFilter.Reading

Filters as they are written: directives with commas between them, each of them

1. a level, for all sources;
2. `target`, `target=` or `target=level`;
3. `[span]`, `[span{field}]` or `[{field}]`, perhaps with `=value` after the
   field, a target in front and `=level` behind.

Without a level everything is shown.  A span is a named stretch of the work,
which may have fields with values, and a directive with a span or a value is
about the entries that are made in such a stretch.  This program has none, so
nothing comes of these directives, but they have to be well formed.  A
directive with a field alone is about the entries that have it.

The marks `=`, `[`, `]` and the braces are looked for in a directive without
the blanks around it, but their places are counted from its very beginning:
with blanks in front, all parts of the directive are taken too early in it.
-/

namespace PascalTokens

namespace LogFilter

/-! ## levels -/

/-- The limits that have a number, which is their rank, and a name. -/
def limits : List (String × Option LogLevel) :=
  [("off", none), ("error", some .error), ("warn", some .warn), ("info", some .info),
    ("debug", some .debug), ("trace", some .trace)]

/-- A number in decimal digits, perhaps with a plus sign. -/
def number? (text : List Char) : Option Nat :=
  let digits := if text.head? = some '+' then text.tail else text
  if digits ≠ [] && digits.all Char.isDigit then
    some (digits.foldl (fun n d => 10 * n + (d.toNat - '0'.toNat)) 0)
  else none

/-- A limit by its number, or by its name in any case. -/
def limit? (text : List Char) : Option (Option LogLevel) :=
  match number? text with
  | some n => limits[n]?.map Prod.snd
  | none => limits.lookup (String.ofList (text.map Char.toLower))

/-- The limit after an equals sign: everything is shown if nothing is there. -/
def limitOrAll? (text : List Char) : Option (Option LogLevel) :=
  if text.isEmpty then some (some .trace) else limit? text

/-! ## fields -/

/-- Whether a text is an exponent without its mark: digits, perhaps signed. -/
def isExponent (text : List Char) : Bool :=
  let digits := if text.head? = some '+' ∨ text.head? = some '-' then text.tail else text
  digits ≠ [] && digits.all Char.isDigit

/-- Whether a text is a number without a sign: digits, of which some may follow
a point, and perhaps an exponent; or the name of a number that is none. -/
def isUnsigned (text : List Char) : Bool :=
  let whole := text.takeWhile Char.isDigit
  let rest := text.drop whole.length
  let fraction := if rest.head? = some '.' then rest.tail.takeWhile Char.isDigit else []
  let rest := if rest.head? = some '.' then rest.drop (fraction.length + 1) else rest
  let exponent := rest.isEmpty || rest.head?.any (·.toLower == 'e') && isExponent rest.tail
  (whole ++ fraction ≠ [] && exponent) ||
    ["inf", "infinity", "nan"].contains (String.ofList (text.map Char.toLower))

/-- Whether a text is a value: a truth value, a number, or else a pattern.  Only
numbers with a plus sign are not patterns themselves. -/
def isValue (text : List Char) : Bool :=
  isPattern text || text.head? == some '+' && isUnsigned text.tail

/-- What stands between braces: the name of a field, `some none` if a value is
compared with it. -/
def field? (text : List Char) : Option (Option String) :=
  if text.isEmpty then none
  else match Text.pieces '=' text with
    | name :: [] => some (some (String.ofList name))
    | _ :: value :: _ => if isValue value then some none else none
    | [] => none

/-! ## directives -/

/-- What is left of a directive. -/
structure Unread where
  /-- The rest without the blanks around the directive, for finding the marks. -/
  word : List Char
  /-- The rest from the same place, counted in bytes, of the directive as it
  is, from which the parts are taken. -/
  directive : List Char
deriving DecidableEq, Repr

namespace Unread

/-- The text without the blanks around it. -/
def trim (text : List Char) : List Char :=
  ((text.dropWhile Unicode.isWhiteSpace).reverse.dropWhile Unicode.isWhiteSpace).reverse

/-- A directive of which nothing has been read. -/
def ofDirective (directive : List Char) : Unread := ⟨trim directive, directive⟩

/-- Reads up to the first of some ASCII characters: the part in front of it, the
character, and the rest after it.  There has to be one, and no character may be
cut. -/
def upTo? (u : Unread) (marks : List Char) : Option (List Char × Char × Unread) :=
  let front := u.word.takeWhile (!marks.contains ·)
  match u.word.drop front.length with
  | [] => none
  | mark :: word => do
    let part ← Text.takeBytes? (Text.byteLength front) u.directive
    let directive ← Text.dropBytes? (Text.byteLength front + 1) u.directive
    some (part, mark, ⟨word, directive⟩)

end Unread

/-- Whether a directive can begin with a character: a mark or one that stands in
targets. -/
def isStart (c : Char) : Bool :=
  c == '[' || c == '-' || c == ':' || c == '_' || Unicode.isAlphabetic c || Unicode.isNumeric c

/-- Reads what stands in brackets, after the opening one: the field that is
asked for, if it is no more than that. -/
def bracket? (u : Unread) : Option (Option String × Unread) := do
  let (span, mark, u) ← u.upTo? [']', '{']
  if mark == ']' then some (none, u)
  else
    let (text, _, u) ← u.upTo? ['}']
    let field ← field? text
    let (between, _, u) ← u.upTo? [']']
    if !between.isEmpty then none
    else if span.isEmpty then some (field, u)
    else some (none, u)

/-- The limit after a closing bracket: everything is shown if nothing is
there. -/
def limitAtEnd? (u : Unread) : Option (Option LogLevel) :=
  if u.word.isEmpty then some (some .trace)
  else do
    let (between, _, u) ← u.upTo? ['=']
    if between.isEmpty then limitOrAll? u.directive else none

/-- The rules that a directive makes, at most one. -/
def rules? (directive : List Char) : Option (List LogRule) :=
  let u := Unread.ofDirective directive
  if !u.word.head?.any isStart then none
  else if u.word.any (['=', '['].contains ·) then do
    let (target, mark, u) ← u.upTo? ['=', '[']
    if mark == '=' then
      let limit ← limitOrAll? u.directive
      some [⟨String.ofList target, none, limit⟩]
    else
      let (field, u) ← bracket? u
      let limit ← limitAtEnd? u
      some (field.toList.map fun name => ⟨String.ofList target, some name, limit⟩)
  else
    match limit? directive with
    | some limit => some [⟨"", none, limit⟩]
    | none => some [⟨String.ofList directive, none, some .trace⟩]

/-! ## filters -/

/-- A filter as it is written; `none` if one of its directives cannot be read.
Empty directives do not count. -/
def parse (text : String) : Option LogFilter :=
  let directives := (Text.pieces ',' text.toList).filter (· ≠ [])
  (directives.mapM rules?).map fun rules => ⟨rules.flatten⟩

/-- The filter that is asked for; the standard one if none is, or none that
can be read. -/
def choose (text : Option String) (verbose : Bool) : LogFilter :=
  (text.bind parse).getD (standard verbose)

example : (parse "pasct=off,pasc_lex=DEBUG").map rules =
    some [⟨"pasct", none, none⟩, ⟨"pasc_lex", none, some .debug⟩] := by decide +kernel

example : (parse "pasct[\x7bpath\x7d]=info,[\x7bline=1\x7d],[span]=off").map rules =
    some [⟨"pasct", some "path", some .info⟩] := by decide +kernel

example : ["[span", "[\x7b\x7d]", "[\x7bline=*\x7d]", "[span]x", "[span]=loud"].all
    (parse · == none) := by decide +kernel

end LogFilter

end PascalTokens
