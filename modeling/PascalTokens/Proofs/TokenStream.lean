import PascalTokens.Proofs.Lookahead
import PascalTokens.Proofs.Pulls
import PascalTokens.Proofs.ReservedWord

/-!
# PascalTokens.Proofs.TokenStream

The token lists that a scan can give.  Each token has the shape of its kind,
and three things are ruled out between neighbours: a number with a sign right
after an operand, an end marker that does not follow `end`, and a plain `.`
that does (`IsTokenStream`).

Every such list is the token list of its own text with spaces between the
tokens, so nothing else is ruled out.  The main statement is
`tokenize_eq_iff_isTokenStream`.
-/

namespace PascalTokens

/-! ## shapes -/

/-- Whether a text is a word. -/
def IsWord (cs : List Char) : Prop :=
  ∃ c tail, cs = c :: tail ∧ isWordStart c = true ∧ ∀ d ∈ tail, isWordPart d = true

/-- Whether a text is an exponent, its digits perhaps missing, or nothing. -/
def IsOpenExponent (cs : List Char) : Prop :=
  cs = [] ∨ ∃ mark ∈ exponentMarks, ∃ digits, (∀ d ∈ digits, isDigit d = true) ∧ cs = mark ++ digits

namespace Token

/-- Whether the lexeme of a token is one of its kind. -/
def HasShape (t : Token) : Prop :=
  let cs := t.lexeme.toList
  match t.kind with
  | .reservedWord => IsWord cs ∧ Unicode.lowercase t.lexeme ∈ reservedWords
  | .identifier => IsWord cs ∧ Unicode.lowercase t.lexeme ∉ reservedWords
  | .integerLiteral =>
    ∃ sign whole, (sign = [] ∨ sign = ['-']) ∧ IsDigits whole ∧ cs = sign ++ whole
  | .realLiteral =>
    ∃ sign whole fraction exponent, (sign = [] ∨ sign = ['-']) ∧ IsDigits whole ∧
      IsFraction fraction ∧ IsOpenExponent exponent ∧ (fraction ≠ [] ∨ exponent ≠ []) ∧
      cs = sign ++ (whole ++ (fraction ++ exponent))
  | .charLiteral => ∃ c, cs = [c] ∨ cs = ['\'', c]
  | .stringLiteral => '"' ∉ cs
  | .specialSymbol => cs = ['.'] ∨ (cs, .specialSymbol) ∈ symbols
  | .endMarker => cs = ['.']
  | kind => (cs, kind) ∈ symbols

/-- Whether a token can come right after another, or first. -/
structure Follows (before : Option Token) (t : Token) : Prop where
  /-- A number right after an operand has no sign. -/
  sign : t.kind.isNumber = true → t.lexeme.toList.head? = some '-' →
    ∀ b ∈ before, b.kind.isNumber = false ∧ b.kind ≠ .identifier
  /-- An end marker follows `end`. -/
  ending : t.kind = .endMarker → before = some ⟨.reservedWord, "end"⟩
  /-- A plain `.` does not. -/
  point : t = ⟨.specialSymbol, "."⟩ → before ≠ some ⟨.reservedWord, "end"⟩

/-- A token as a text from which it is read: a literal with its quotes. -/
def written (t : Token) : List Char :=
  match t.kind, t.lexeme.toList with
  | .charLiteral, [c] => ['\'', c, '\'']
  | .stringLiteral, cs => '"' :: cs ++ ['"']
  | _, cs => cs

end Token

/-- Whether tokens can come one after another, after a token or first. -/
def IsTokenStreamAfter (before : Option Token) : List Token → Prop
  | [] => True
  | t :: ts => t.HasShape ∧ t.Follows before ∧ IsTokenStreamAfter (some t) ts

/-- Whether a list of tokens is one that a scan can give. -/
def IsTokenStream (ts : List Token) : Prop := IsTokenStreamAfter none ts

/-- Tokens as a source with one space between each two. -/
def spaced (ts : List Token) : String := String.ofList ([' '].intercalate (ts.map Token.written))

/-! ## what is remembered of a token -/

/-- What is remembered at a place, given the token before it. -/
def Preceding.ofToken? : Option Token → Preceding
  | none => nothing
  | some t => ofToken t

/-- Numbers and identifiers are the operands. -/
theorem Preceding.ofToken?_eq_operand_iff {before : Option Token} :
    ofToken? before = operand ↔
      ∃ b ∈ before, b.kind.isNumber = true ∨ b.kind = .identifier := by
  cases before with
  | none => simp [ofToken?]
  | some t =>
      obtain ⟨kind, lexeme⟩ := t
      cases kind with
      | reservedWord =>
          by_cases hend : Token.isEnd ⟨.reservedWord, lexeme⟩ = true <;>
            simp [ofToken?, ofToken, Kind.isNumber, hend]
      | _ => simp [ofToken?, ofToken, Kind.isNumber]

/-- Only an `end` spelled exactly so is followed by the end of the program. -/
theorem Preceding.ofToken?_eq_endWord_iff {before : Option Token} :
    ofToken? before = endWord ↔ before = some ⟨.reservedWord, "end"⟩ := by
  cases before with
  | none => simp [ofToken?]
  | some t =>
      obtain ⟨kind, lexeme⟩ := t
      cases kind <;> simp [ofToken?, ofToken, Token.isEnd]

/-- Which tokens may follow one another is decided by the lookback. -/
theorem Token.follows_iff {before : Option Token} {t : Token} :
    t.Follows before ↔
      (t.kind.isNumber = true → t.lexeme.toList.head? = some '-' →
        Preceding.ofToken? before ≠ .operand) ∧
      (t.kind = .endMarker → Preceding.ofToken? before = .endWord) ∧
      (t = ⟨.specialSymbol, "."⟩ → Preceding.ofToken? before ≠ .endWord) := by
  simp only [ne_eq, Preceding.ofToken?_eq_operand_iff, Preceding.ofToken?_eq_endWord_iff]
  constructor
  · rintro ⟨hsign, hending, hpoint⟩
    refine ⟨fun hn hm => ?_, hending, hpoint⟩
    rintro ⟨b, hb, hoperand⟩
    obtain ⟨hnumber, hident⟩ := hsign hn hm b hb
    simp [hnumber, hident] at hoperand
  · rintro ⟨hsign, hending, hpoint⟩
    refine ⟨fun hn hm b hb => ?_, hending, hpoint⟩
    have hnot := hsign hn hm
    simp only [not_exists, not_and, not_or, Bool.not_eq_true] at hnot
    exact hnot b hb

/-! ## kinds of words and symbols -/

/-- A word is reserved or an identifier. -/
theorem Kind.ofWord_cases (word : String) :
    ofWord word = .reservedWord ∨ ofWord word = .identifier := by
  unfold ofWord
  split
  · exact .inl rfl
  · exact .inr rfl

/-- The fixed symbols are of four kinds, and the dot is not among them. -/
theorem kind_of_mem_symbols {text : List Char} {kind : Kind} (h : (text, kind) ∈ symbols) :
    text ≠ ['.'] ∧ (kind = .specialSymbol ∨ kind = .assignment ∨ kind = .arithmeticOperator ∨
      kind = .relationalOperator) := by
  have key : ∀ s ∈ symbols, s.1 ≠ ['.'] ∧ (s.2 = .specialSymbol ∨ s.2 = .assignment ∨
      s.2 = .arithmeticOperator ∨ s.2 = .relationalOperator) := by decide
  exact key _ h

namespace Scan

/-! ## what is read has a shape, and follows what stands before it -/

/-- A word has the shape of its kind. -/
theorem hasShape_ofWord {c : Char} {cs : List Char} (first : isWordStart c = true)
    (others : ∀ d ∈ cs, isWordPart d = true) : (Reading.ofWord (c :: cs)).token.HasShape := by
  have hword : IsWord (String.ofList (c :: cs)).toList := by
    rw [String.toList_ofList]
    exact ⟨c, cs, rfl, first, others⟩
  simp only [Reading.ofWord, Kind.ofWord]
  split
  · next h => exact ⟨hword, isReserved_iff.1 h⟩
  · next h => exact ⟨hword, fun hm => h (isReserved_iff.2 hm)⟩

theorem hasShape_ofNumeral {preceding : Preceding} {n : Numeral} (form : n.IsFormed preceding) :
    (Reading.ofNumeral n).token.HasShape := by
  have hsign : n.sign = [] ∨ n.sign = ['-'] := form.sign.imp id And.left
  have hexponent : IsOpenExponent n.exponentText := by
    unfold Numeral.exponentText
    cases he : n.exponent with
    | none => exact .inl rfl
    | some e =>
        obtain ⟨hmark, hdigits⟩ := form.exponent e he
        exact .inr ⟨e.mark, hmark, e.digits, hdigits, rfl⟩
  by_cases hreal : n.isReal = true
  · simp only [Reading.ofNumeral, hreal, if_true, Token.HasShape, String.toList_ofList]
    exact ⟨n.sign, n.whole, n.fraction, n.exponentText, hsign, form.whole, form.fraction,
      hexponent, form.isReal_iff.1 hreal, n.text_eq⟩
  · simp only [Reading.ofNumeral, hreal, Token.HasShape, String.toList_ofList]
    exact ⟨n.sign, n.whole, hsign, form.whole, form.text_eq_of_not_isReal hreal⟩

/-- Every token that is read has the shape of its kind. -/
theorem Reads.hasShape {preceding : Preceding} {r : Reading} {rest : List Char}
    (h : Reads preceding r rest) : r.token.HasShape := by
  cases h with
  | word first others => exact hasShape_ofWord first others
  | number form => exact hasShape_ofNumeral form
  | char c => exact ⟨c, .inl (by simp)⟩
  | @openChar c => exact ⟨c, .inr (by simp)⟩
  | loneQuote => exact ⟨'\'', .inl rfl⟩
  | string plain => simpa [Token.HasShape] using plain
  | openString plain => simpa [Token.HasShape] using plain
  | symbol fixed =>
      obtain ⟨-, rfl | rfl | rfl | rfl⟩ := kind_of_mem_symbols fixed
      · exact .inr (by simpa using fixed)
      all_goals simpa [Token.HasShape] using fixed
  | point =>
      simp only
      split
      · rfl
      · exact .inl rfl

/-- Every token that is read may follow the one before it. -/
theorem Reads.follows {before : Option Token} {r : Reading} {rest : List Char}
    (h : Reads (.ofToken? before) r rest) : r.token.Follows before := by
  rw [Token.follows_iff]
  cases h with
  | @word c cs =>
      rw [Reading.ofWord]
      obtain hkind | hkind := Kind.ofWord_cases (String.ofList (c :: cs))
      all_goals
        rw [hkind]
        simp [Kind.isNumber]
  | @number n _ form =>
      refine ⟨fun _ hminus => ?_, ?_, ?_⟩
      · obtain hnil | ⟨-, hne⟩ := form.sign
        · have hdigit := Numeral.goesOn_of_isDigits form.whole (n.fraction ++ n.exponentText)
          rw [Reading.ofNumeral, String.toList_ofList, n.text_eq, hnil, List.nil_append] at hminus
          rw [goesOn, hminus] at hdigit
          exact absurd hdigit (by decide)
        · exact hne
      · cases hreal : n.isReal <;> simp [Reading.ofNumeral, hreal]
      · cases hreal : n.isReal <;> simp [Reading.ofNumeral, hreal]
  | char | openChar | loneQuote | string | openString => simp [Kind.isNumber]
  | @symbol text _ _ fixed =>
      obtain ⟨hpoint, hkind⟩ := kind_of_mem_symbols fixed
      have hlexeme : String.ofList text ≠ "." := by
        intro heq
        have hlist := congrArg String.toList heq
        rw [String.toList_ofList] at hlist
        exact hpoint hlist
      rcases hkind with rfl | rfl | rfl | rfl <;> simp [Kind.isNumber, hlexeme]
  | point =>
      by_cases hend : Preceding.ofToken? before = .endWord
      · simp [hend, Preceding.dotEndsProgram, Kind.isNumber]
      · simp [hend, Preceding.dotEndsProgram, Kind.isNumber]

/-- The tokens of a layout that stands can come one after another. -/
theorem Layout.Stands.isTokenStreamAfter {before : Option Token} {l : Layout}
    (h : l.Stands (.ofToken? before)) : IsTokenStreamAfter before l.tokens := by
  induction l generalizing before with
  | ending gap => trivial
  | token gap r others ih =>
      obtain ⟨-, hread, hothers⟩ := h
      have hothers : others.Stands (.ofToken? (some r.token)) := hothers
      exact ⟨hread.hasShape, hread.follows, ih hothers⟩

/-! ## every shape is read where it follows what stands before it -/

theorem eq_ofList_of_toList {s : String} {cs : List Char} (h : s.toList = cs) :
    s = String.ofList cs := by
  rw [← h, String.ofList_toList]

/-- Whether a token is read from its text, where the source ends after it and
wherever a breaking character follows. -/
def IsReadAfter (before : Option Token) (t : Token) : Prop :=
  ∃ r, r.token = t ∧ r.text = t.written ∧ ¬ r.TakesRest ∧ Reads (.ofToken? before) r []

section

variable {before : Option Token} {lexeme : String}

/-- A word is read again from its own text. -/
theorem isReadAfter_of_isWord {kind : Kind} (h : IsWord lexeme.toList)
    (hkind : Kind.ofWord lexeme = kind) : IsReadAfter before ⟨kind, lexeme⟩ := by
  obtain ⟨c, tail, hcs, first, others⟩ := h
  obtain rfl := eq_ofList_of_toList hcs
  refine ⟨.ofWord (c :: tail), by rw [Reading.ofWord, hkind], ?_, not_takesRest_ofWord first,
    .word first others rfl⟩
  obtain rfl | rfl : kind = .reservedWord ∨ kind = .identifier := by
    rw [← hkind]
    exact Kind.ofWord_cases _
  all_goals simp [Reading.ofWord, Token.written]

/-- A numeral is read again from its own text. -/
theorem isReadAfter_ofNumeral {n : Numeral} (form : n.IsFormed (.ofToken? before)) :
    IsReadAfter before (Reading.ofNumeral n).token := by
  refine ⟨.ofNumeral n, rfl, ?_, not_takesRest_ofNumeral form, .number form n.stops_nil⟩
  cases hreal : n.isReal <;> simp [Reading.ofNumeral, Token.written, hreal]

/-- A symbol is read again from its own text. -/
theorem isReadAfter_of_mem_symbols {kind : Kind} (h : (lexeme.toList, kind) ∈ symbols) :
    IsReadAfter before ⟨kind, lexeme⟩ := by
  refine ⟨⟨lexeme.toList, ⟨kind, lexeme⟩, none⟩, rfl, ?_, not_takesRest_of_mem_symbols h, ?_⟩
  · obtain ⟨-, rfl | rfl | rfl | rfl⟩ := kind_of_mem_symbols h <;> simp [Token.written]
  · have hread : Reads (.ofToken? before) _ [] := .symbol h rfl
    simpa using hread

/-- The sign of a number is read as such where the number can follow. -/
theorem isSign_of_follows {t : Token} {sign tail : List Char} (h : t.Follows before)
    (hnumber : t.kind.isNumber = true) (hsign : sign = [] ∨ sign = ['-'])
    (hcs : t.lexeme.toList = sign ++ tail) : IsSign (.ofToken? before) sign := by
  refine hsign.imp id fun hminus => ⟨hminus, (Token.follows_iff.1 h).1 hnumber ?_⟩
  rw [hcs, hminus]
  rfl

end

/-- A token of the shape of its kind is read from its text, after every token
that it can follow. -/
theorem isReadAfter_of_hasShape {before : Option Token} {t : Token} (hshape : t.HasShape)
    (hfollows : t.Follows before) : IsReadAfter before t := by
  obtain ⟨kind, lexeme⟩ := t
  cases kind with
  | reservedWord =>
      exact isReadAfter_of_isWord hshape.1 (if_pos (isReserved_iff.2 hshape.2))
  | identifier =>
      exact isReadAfter_of_isWord hshape.1 (if_neg fun h => hshape.2 (isReserved_iff.1 h))
  | integerLiteral =>
      obtain ⟨sign, whole, hsign, hwhole, hcs⟩ := hshape
      have form : Numeral.IsFormed (.ofToken? before) { sign, whole } :=
        ⟨isSign_of_follows hfollows rfl hsign hcs, hwhole, .inl rfl, by simp⟩
      have htext : Numeral.text { sign, whole } = lexeme.toList := by
        rw [Numeral.text_eq, hcs]
        simp [Numeral.exponentText]
      have hread := isReadAfter_ofNumeral form
      rwa [Reading.ofNumeral, htext, String.ofList_toList] at hread
  | realLiteral =>
      obtain ⟨sign, whole, fraction, x, hsign, hwhole, hfraction, hx, hreal, hcs⟩ := hshape
      obtain ⟨exponent, rfl, hexponent⟩ := Exponent.exists_of_mark hx
      have form : Numeral.IsFormed (.ofToken? before) { sign, whole, fraction, exponent } :=
        ⟨isSign_of_follows hfollows rfl hsign hcs, hwhole, hfraction, hexponent⟩
      have htext : Numeral.text { sign, whole, fraction, exponent } = lexeme.toList := by
        rw [Numeral.text_eq, hcs]
        rfl
      have hread := isReadAfter_ofNumeral form
      rwa [Reading.ofNumeral, htext, String.ofList_toList, if_pos (form.isReal_iff.2 hreal)]
        at hread
  | charLiteral =>
      obtain ⟨c, hcs | hcs⟩ := hshape
      · obtain rfl := eq_ofList_of_toList hcs
        refine ⟨_, ?_, ?_, ?_, .char c []⟩
        · simp
        · simp [Token.written]
        · simp [Reading.TakesRest]
      · obtain rfl := eq_ofList_of_toList hcs
        refine ⟨_, rfl, ?_, ?_, .openChar (c := c) rfl⟩
        · simp [Token.written]
        · simp [Reading.TakesRest]
  | stringLiteral =>
      refine ⟨_, ?_, ?_, ?_, .string hshape⟩
      · simp
      · simp [Token.written]
      · simp [Reading.TakesRest]
  | specialSymbol =>
      obtain hcs | hfixed := hshape
      · obtain rfl := eq_ofList_of_toList hcs
        have hend := (Token.follows_iff.1 hfollows).2.2 rfl
        refine ⟨_, ?_, ?_, ?_, .point []⟩
        · simp [Preceding.dotEndsProgram, hend]
        · simp [Token.written]
        · simp [Reading.TakesRest]
      · exact isReadAfter_of_mem_symbols hfixed
  | endMarker =>
      obtain rfl := eq_ofList_of_toList (show lexeme.toList = ['.'] from hshape)
      have hend := (Token.follows_iff.1 hfollows).2.1 rfl
      refine ⟨_, ?_, ?_, ?_, .point []⟩
      · simp [Preceding.dotEndsProgram, hend]
      · simp [Token.written]
      · simp [Reading.TakesRest]
  | arithmeticOperator => exact isReadAfter_of_mem_symbols hshape
  | relationalOperator => exact isReadAfter_of_mem_symbols hshape
  | assignment => exact isReadAfter_of_mem_symbols hshape

/-! ## token streams -/

theorem spacedText_cons_cons (t u : Token) (ts : List Token) :
    [' '].intercalate ((t :: u :: ts).map Token.written) =
      t.written ++ ' ' :: [' '].intercalate ((u :: ts).map Token.written) := by
  simp [List.intercalate]

/-- Tokens that can come one after another are those of a layout with a space
between each two. -/
theorem exists_layout_spaced {before : Option Token} {ts : List Token}
    (h : IsTokenStreamAfter before ts) :
    ∃ l : Layout, l.Stands (.ofToken? before) ∧
      l.text = [' '].intercalate (ts.map Token.written) ∧ l.tokens = ts ∧ l.unrecognized = [] := by
  induction ts generalizing before with
  | nil => exact ⟨.ending [], ⟨by simp, by simp⟩, rfl, rfl, rfl⟩
  | cons t ts ih =>
      obtain ⟨hshape, hfollows, hts⟩ := h
      obtain ⟨r, rfl, htext, hends, hread⟩ := isReadAfter_of_hasShape hshape hfollows
      obtain ⟨l, hstands, hltext, htokens, hnone⟩ := ih hts
      have hclosed : IsClosedGap [] := by simp [IsClosedGap]
      cases ts with
      | nil =>
          refine ⟨.token [] r (.ending []), ⟨hclosed, hread, by simp, by simp⟩, ?_, rfl, rfl⟩
          simp [Layout.text, htext, List.intercalate]
      | cons u ts =>
          -- The space keeps the tokens on both sides of it apart.
          have hbreaks : Breaks (l.precede (.blank ' ')).text := by
            rw [Layout.text_precede]
            exact breaks_cons.2 (by decide)
          refine ⟨.token [] r (l.precede (.blank ' ')),
            ⟨hclosed, hread.of_breaks hends hbreaks, ?_⟩, ?_, ?_, ?_⟩
          · exact hstands.precede (show isBlank ' ' = true by decide) (by simp [Skipped.isOpen])
          · rw [spacedText_cons_cons, ← hltext, ← htext, Layout.text, Layout.text_precede]
            rfl
          · rw [Layout.tokens_token, Layout.tokens_precede, htokens]
          · rw [Layout.unrecognized_token, Layout.unrecognized_precede, hnone]
            rfl

/-- A list of tokens is that of some source exactly if it is a token stream,
and then it is the one of its own text with spaces, which has no character that
starts no token. -/
theorem tokenize_eq_iff_isTokenStream (ts : List Token) (log : DiagnosticLog) :
    ((∃ source, (tokenize source log).1 = ts) ↔ IsTokenStream ts) ∧
      (IsTokenStream ts ↔ (tokenize (spaced ts) log).1 = ts ∧
        (Scanner.ofSource (spaced ts) log).rest.2.unrecognized = #[]) := by
  have hstream (source : String) : IsTokenStream (tokenize source log).1 := by
    have hstands : (layout source).Stands (.ofToken? none) :=
      stands_layoutAfter .nothing source.toList
    rw [tokenize_eq_tokens]
    exact hstands.isTokenStreamAfter
  have hspaced (h : IsTokenStream ts) : (tokenize (spaced ts) log).1 = ts ∧
      (Scanner.ofSource (spaced ts) log).rest.2.unrecognized = #[] := by
    obtain ⟨l, hstands, htext, htokens, hnone⟩ := exists_layout_spaced h
    have hlayout : layout (spaced ts) = l :=
      layoutAfter_eq_iff.2 ⟨by rw [spaced, String.toList_ofList, htext], hstands⟩
    refine ⟨by rw [tokenize_eq_tokens, hlayout, htokens], ?_⟩
    rw [← Array.toList_eq_nil_iff, unrecognized_rest_ofSource, hlayout, hnone]
  refine ⟨⟨?_, fun h => ⟨spaced ts, (hspaced h).1⟩⟩, ⟨hspaced, ?_⟩⟩
  · rintro ⟨source, rfl⟩
    exact hstream source
  · rintro ⟨h, -⟩
    rw [← h]
    exact hstream (spaced ts)

end Scan

end PascalTokens
