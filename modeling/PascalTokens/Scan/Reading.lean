import PascalTokens.Fault
import PascalTokens.Scan.Numeral

/-!
# PascalTokens.Scan.Reading

The token that a text starts with.

1. A word is a letter and all letters and digits after it.
2. A number starts with an ASCII digit, or with a `-` that is a sign.
3. A character literal is one character between single quotes, and a string
   literal everything between two double quotes.
4. A symbol is read as the longest of the fixed symbols.

Comments are none of this: `/` before `*` is left to the caller.  The main
statements are `Reading.text_isPrefix` and `Reading.text_ne_nil`: a reading
covers a non-empty front part of the text.
-/

namespace PascalTokens.Scan

/-- A token as it was read: the text it covers, and what is wrong with it. -/
structure Reading where
  text : List Char
  token : Token
  fault : Option Fault := none
deriving DecidableEq, Repr

namespace Reading

/-- Reads a word. -/
def word (cs : List Char) : Reading :=
  let text := cs.takeWhile isWordPart
  let lexeme := String.ofList text
  ⟨text, ⟨.ofWord lexeme, lexeme⟩, none⟩

/-- Reads a number. -/
def number (cs : List Char) : Reading :=
  let numeral := Numeral.read cs
  let lexeme := String.ofList numeral.text
  ⟨numeral.text, ⟨if numeral.isReal then .realLiteral else .integerLiteral, lexeme⟩,
    if numeral.isComplete then none else some (.bareExponent lexeme)⟩

/-- Reads a character literal; `cs` is what follows its opening quote. -/
def charLiteral : List Char → Reading
  | [] => ⟨['\''], ⟨.charLiteral, "'"⟩, some .openChar⟩
  | c :: '\'' :: _ => ⟨['\'', c, '\''], ⟨.charLiteral, String.singleton c⟩, none⟩
  | c :: _ => ⟨['\'', c], ⟨.charLiteral, String.ofList ['\'', c]⟩, some .openChar⟩

/-- Whether a character is not a double quote, and so belongs to a string. -/
def inString (c : Char) : Bool := c != '"'

/-- Reads a string literal; `cs` is what follows its opening quote. -/
def stringLiteral (cs : List Char) : Reading :=
  let content := cs.takeWhile inString
  let token : Token := ⟨.stringLiteral, String.ofList content⟩
  match cs.dropWhile inString with
  | [] => ⟨'"' :: content, token, some .openString⟩
  | _ :: _ => ⟨'"' :: content ++ ['"'], token, none⟩

/-- The symbol that a text starts with, and its kind. -/
def symbol? (preceding : Preceding) : List Char → Option (List Char × Kind)
  | '(' :: _ => some (['('], .specialSymbol)
  | ')' :: _ => some ([')'], .specialSymbol)
  | ';' :: _ => some ([';'], .specialSymbol)
  | ',' :: _ => some ([','], .specialSymbol)
  | '.' :: _ => some (['.'], if preceding.dotEndsProgram then .endMarker else .specialSymbol)
  | ':' :: '=' :: _ => some ([':', '='], .assignment)
  | ':' :: _ => some ([':'], .specialSymbol)
  | '+' :: _ => some (['+'], .arithmeticOperator)
  | '-' :: _ => some (['-'], .arithmeticOperator)
  | '*' :: _ => some (['*'], .arithmeticOperator)
  | '/' :: _ => some (['/'], .arithmeticOperator)
  | '=' :: _ => some (['='], .relationalOperator)
  | '<' :: '=' :: _ => some (['<', '='], .relationalOperator)
  | '<' :: '>' :: _ => some (['<', '>'], .relationalOperator)
  | '<' :: _ => some (['<'], .relationalOperator)
  | '>' :: '=' :: _ => some (['>', '='], .relationalOperator)
  | '>' :: _ => some (['>'], .relationalOperator)
  | _ => none

/-- Reads a symbol, if the text starts with one. -/
def symbolReading? (preceding : Preceding) (cs : List Char) : Option Reading :=
  (symbol? preceding cs).map fun (text, kind) => ⟨text, ⟨kind, String.ofList text⟩, none⟩

/-- Whether a text starts with a number: with a digit, or with a sign and a
digit where a `-` can be a sign. -/
def startsNumber (preceding : Preceding) : List Char → Bool
  | '-' :: d :: _ => !preceding.minusIsOperator && isDigit d
  | c :: _ => isDigit c
  | [] => false

/-- The token that a text starts with, given what stands before it; `none` if
the text is empty or starts with a character that starts no token. -/
def read? (preceding : Preceding) (cs : List Char) : Option Reading :=
  match cs with
  | [] => none
  | c :: rest =>
    if isWordStart c then some (word cs)
    else if startsNumber preceding cs then some (number cs)
    else if c = '\'' then some (charLiteral rest)
    else if c = '"' then some (stringLiteral rest)
    else symbolReading? preceding cs

/-! ## A reading is a front part of the text -/

/-- A character literal is the front of the text from its quote on. -/
theorem charLiteral_isPrefix (cs : List Char) : (charLiteral cs).text <+: '\'' :: cs := by
  unfold charLiteral
  split <;> simp

/-- A string literal is the front of the text from its quote on. -/
theorem stringLiteral_isPrefix (cs : List Char) : (stringLiteral cs).text <+: '"' :: cs := by
  have hsplit := List.takeWhile_append_dropWhile (p := inString) (l := cs)
  unfold stringLiteral
  simp only
  split
  · next h => rw [h, List.append_nil] at hsplit; simp [hsplit]
  · next c rest h =>
      have hc : inString c = false := by
        have := List.head?_dropWhile_not inString cs
        simpa [h] using this
      have hc : c = '"' := by simpa [inString] using hc
      conv => rhs; rw [← hsplit, h, hc]
      simp

/-- A symbol is a non-empty front part of the text. -/
theorem symbol?_isPrefix {preceding : Preceding} {cs text : List Char} {kind : Kind}
    (h : symbol? preceding cs = some (text, kind)) : text <+: cs ∧ text ≠ [] := by
  unfold symbol? at h
  split at h <;> simp at h <;> obtain ⟨rfl, -⟩ := h <;> simp

/-- A reading covers a front part of the text. -/
theorem text_isPrefix {preceding : Preceding} {cs : List Char} {r : Reading}
    (h : read? preceding cs = some r) : r.text <+: cs := by
  unfold read? at h
  split at h
  · simp at h
  · split at h
    · obtain rfl := Option.some.inj h
      exact List.takeWhile_prefix _
    · split at h
      · obtain rfl := Option.some.inj h
        exact Numeral.text_read_isPrefix _
      · split at h
        · next hc => obtain rfl := Option.some.inj h; rw [hc]; exact charLiteral_isPrefix _
        · split at h
          · next hc => obtain rfl := Option.some.inj h; rw [hc]; exact stringLiteral_isPrefix _
          · obtain ⟨⟨text, kind⟩, hs, rfl⟩ := Option.map_eq_some_iff.1 h
            exact (symbol?_isPrefix hs).1

/-- A number covers at least the digit or the sign that it starts with. -/
theorem number_text_ne_nil {preceding : Preceding} {cs : List Char}
    (h : startsNumber preceding cs = true) : (number cs).text ≠ [] := by
  unfold startsNumber at h
  split at h
  · simp [number, Numeral.read, Numeral.readUnsigned, Numeral.text]
  · next c rest hne =>
      have hc : c ≠ '-' := by rintro rfl; simp [isDigit, Char.isDigit] at h
      have : Numeral.read (c :: rest) = Numeral.readUnsigned [] (c :: rest) := by
        unfold Numeral.read
        split
        · next heq => simp at heq; exact absurd heq.1 hc
        · rfl
      simp [number, this, Numeral.readUnsigned, Numeral.text, h]
  · simp at h

/-- A reading covers some text. -/
theorem text_ne_nil {preceding : Preceding} {cs : List Char} {r : Reading}
    (h : read? preceding cs = some r) : r.text ≠ [] := by
  unfold read? at h
  split at h
  · simp at h
  · split at h
    · next hc =>
        obtain rfl := Option.some.inj h
        simp [word, isWordPart_of_isWordStart hc]
    · split at h
      · next hn => obtain rfl := Option.some.inj h; exact number_text_ne_nil hn
      · split at h
        · obtain rfl := Option.some.inj h; unfold charLiteral; split <;> simp
        · split at h
          · obtain rfl := Option.some.inj h; simp only [stringLiteral]; split <;> simp
          · obtain ⟨⟨text, kind⟩, hs, rfl⟩ := Option.map_eq_some_iff.1 h
            exact (symbol?_isPrefix hs).2

end Reading

end PascalTokens.Scan
