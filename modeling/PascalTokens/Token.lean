import PascalTokens.ReservedWord

/-!
# PascalTokens.Token

Tokens, and what a token means for the one after it.

A token pairs one of eleven kinds with its lexeme.  The lexeme is the text of
the token, except that a complete character or string literal has only what
stands between its quotes.

Two characters are read by the token before them: `-` is a sign unless it
follows an operand, and `.` ends the program right after a lower-case `end`.
`Preceding` is all that has to be remembered for that.
-/

namespace PascalTokens

/-- The kinds of tokens. -/
inductive Kind
  /-- A word of the reserved-word table, in any case. -/
  | reservedWord
  /-- Any other word. -/
  | identifier
  /-- Digits, with a sign perhaps. -/
  | integerLiteral
  /-- A number with a fraction or an exponent. -/
  | realLiteral
  /-- One character in single quotes. -/
  | charLiteral
  /-- Text in double quotes. -/
  | stringLiteral
  /-- One of `+`, `-`, `*` and `/`. -/
  | arithmeticOperator
  /-- One of `=`, `<`, `>`, `<=`, `>=` and `<>`. -/
  | relationalOperator
  /-- The `:=`. -/
  | assignment
  /-- One of `(`, `)`, `;`, `,`, `:` and a plain `.`. -/
  | specialSymbol
  /-- The `.` after the last `end` of a program. -/
  | endMarker
deriving DecidableEq, Repr

namespace Kind

/-- All kinds, in the order in which they are listed. -/
def all : List Kind :=
  [reservedWord, identifier, integerLiteral, realLiteral, charLiteral, stringLiteral,
    arithmeticOperator, relationalOperator, assignment, specialSymbol, endMarker]

/-- The name of a kind in reports. -/
def name : Kind → String
  | reservedWord => "RESERVED_WORD"
  | identifier => "IDENTIFIER"
  | integerLiteral => "INTEGER_LITERAL"
  | realLiteral => "REAL_LITERAL"
  | charLiteral => "CHAR_LITERAL"
  | stringLiteral => "STRING_LITERAL"
  | arithmeticOperator => "ARITHMETIC_OPERATOR"
  | relationalOperator => "RELATIONAL_OPERATOR"
  | assignment => "ASSIGNMENT"
  | specialSymbol => "SPECIAL_SYMBOL"
  | endMarker => "END_MARKER"

/-- The kind with a given name. -/
def ofName? (s : String) : Option Kind := all.find? (·.name == s)

/-- Whether the kind is a number literal. -/
def isNumber : Kind → Bool
  | integerLiteral | realLiteral => true
  | _ => false

/-- Whether the kind is an operator, assignment included. -/
def isOperator : Kind → Bool
  | arithmeticOperator | relationalOperator | assignment => true
  | _ => false

/-- The kind of a word. -/
def ofWord (word : String) : Kind := if isReserved word then reservedWord else identifier

/-- A kind is known by its name. -/
@[simp] theorem ofName?_name (k : Kind) : ofName? k.name = some k := by cases k <;> decide

end Kind

/-- A classified piece of source text. -/
structure Token where
  kind : Kind
  lexeme : String
deriving DecidableEq, Repr

namespace Token

/-- Whether the token is the reserved word `end` in lower case. -/
def isEnd (t : Token) : Bool := t.kind == .reservedWord && t.lexeme == "end"

/-- A token as a line of a report shows it. -/
def display (t : Token) : String := "<" ++ t.lexeme ++ ", " ++ t.kind.name ++ ">"

instance : ToString Token := ⟨display⟩

end Token

/-- What is remembered of the token before a place. -/
inductive Preceding
  /-- There is no token yet. -/
  | nothing
  /-- A number or an identifier. -/
  | operand
  /-- The reserved word `end` in lower case. -/
  | endWord
  /-- Any other token. -/
  | other
deriving DecidableEq, Repr

namespace Preceding

/-- What is remembered of a token. -/
def ofToken (t : Token) : Preceding :=
  match t.kind with
  | .integerLiteral | .realLiteral | .identifier => operand
  | .reservedWord => if t.isEnd then endWord else other
  | _ => other

/-- Whether a `-` here is an operator even before a digit. -/
def minusIsOperator (p : Preceding) : Bool := p == operand

/-- Whether a `.` here ends the program. -/
def dotEndsProgram (p : Preceding) : Bool := p == endWord

end Preceding

end PascalTokens
