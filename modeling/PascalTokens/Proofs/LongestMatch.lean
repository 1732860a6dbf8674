import PascalTokens.Proofs.Reached
import PascalTokens.Proofs.ReservedWord

/-!
# PascalTokens.Proofs.LongestMatch

The token grammar of `Spelling` is what a scan reads.  A complete token is
spelled by its text (`Reads.spelling`), no longer front of the source spells
one (`Spelling.length_le`), and a text spells tokens of one kind only
(`Spelling.kind_unique`).  A character is skipped where no spelling, no literal
and no blank starts (`Spelling.startsNothing_iff`).

The main statement is `Scan.Scanner.pull_takes_longest_spelling`.
-/

namespace PascalTokens

open Scan

/-! ## complete tokens are spelled by their texts -/

/-- A word is spelled with the kind that the reserved words give it. -/
theorem Spelling.of_word {preceding : Preceding} {c : Char} {cs : List Char}
    (first : isWordStart c = true) (others : ∀ d ∈ cs, isWordPart d = true) :
    Spelling preceding (c :: cs) (.ofWord (String.ofList (c :: cs))) := by
  unfold Kind.ofWord
  split
  · next h => exact .reserved first others (isReserved_iff.1 h)
  · next h => exact .identifier first others fun hm => h (isReserved_iff.2 hm)

/-- A complete number has a complete exponent, or none. -/
theorem Scan.Numeral.IsFormed.isExponent {preceding : Preceding} {n : Numeral}
    (form : n.IsFormed preceding) (h : n.isComplete = true) : IsExponent n.exponentText := by
  unfold Numeral.exponentText
  cases he : n.exponent with
  | none => exact .inl rfl
  | some e =>
      obtain ⟨hmark, hdigits⟩ := form.exponent e he
      have hne : e.digits ≠ [] := by simpa [Numeral.isComplete, he] using h
      exact .inr ⟨e.mark, hmark, e.digits, ⟨hne, hdigits⟩, rfl⟩

/-- A numeral without a bare exponent is spelled as an integer or a real literal. -/
theorem Spelling.of_numeral {preceding : Preceding} {n : Numeral} (form : n.IsFormed preceding)
    (h : n.isComplete = true) :
    Spelling preceding n.text (if n.isReal then .realLiteral else .integerLiteral) := by
  by_cases hreal : n.isReal = true
  · have hparts := form.isReal_iff.1 hreal
    have hspelling := Spelling.real form.sign form.whole form.fraction (form.isExponent h) hparts
    rw [if_pos hreal, n.text_eq]
    simpa only [List.append_assoc] using hspelling
  · rw [if_neg hreal, form.text_eq_of_not_isReal hreal]
    exact .integer form.sign form.whole

/-- A token that is read without a fault is spelled by its text. -/
theorem Scan.Reads.spelling {preceding : Preceding} {r : Reading} {rest : List Char}
    (h : Reads preceding r rest) (hfault : r.fault = none) :
    Spelling preceding r.text r.token.kind := by
  cases h with
  | word first others => exact .of_word first others
  | @number n _ form =>
      have hcomplete : n.isComplete = true := by
        simpa [Reading.ofNumeral] using hfault
      exact .of_numeral form hcomplete
  | char c => exact .char c
  | openChar | loneQuote | openString => simp at hfault
  | string plain => exact .string plain
  | symbol fixed => exact .symbol fixed
  | point =>
      by_cases hend : preceding = .endWord
      · simpa [hend, Preceding.dotEndsProgram] using Spelling.ending hend
      · simpa [hend, Preceding.dotEndsProgram] using Spelling.point hend

/-! ## a text spells one kind -/

/-- The parts of a numeral, with nothing behind them, are read as one token. -/
theorem Scan.Reads.exists_of_parts {preceding : Preceding}
    {sign whole fraction exponent : List Char} (isSign : IsSign preceding sign)
    (isWhole : IsDigits whole) (isFraction : IsFraction fraction)
    (isExponent : IsExponent exponent) :
    ∃ lexeme, Reads preceding
      ⟨sign ++ (whole ++ (fraction ++ exponent)),
        ⟨if fraction ≠ [] ∨ exponent ≠ [] then .realLiteral else .integerLiteral, lexeme⟩,
        none⟩ [] := by
  obtain ⟨exponent, rfl, he⟩ := Exponent.exists_of_mark isExponent
  let n : Numeral := { sign, whole, fraction, exponent }
  have form : n.IsFormed preceding :=
    ⟨isSign, isWhole, isFraction, fun e h => ⟨(he e h).1, (he e h).2.2⟩⟩
  have hcomplete : n.isComplete = true := by
    cases exponent with
    | none => rfl
    | some e => simpa [n, Numeral.isComplete] using (he e rfl).2.1
  have hreads := Reads.number form n.stops_nil
  simp only [Reading.ofNumeral, hcomplete, if_true, form.isReal_iff, n.text_eq] at hreads
  exact ⟨_, hreads⟩

/-- Whatever is spelled is read, where the source ends after it. -/
theorem Spelling.exists_reads {preceding : Preceding} {text : List Char} {kind : Kind}
    (h : Spelling preceding text kind) :
    ∃ lexeme, Reads preceding ⟨text, ⟨kind, lexeme⟩, none⟩ [] := by
  cases h with
  | @reserved c cs first others listed =>
      have hreads : Reads preceding (.ofWord (c :: cs)) [] := .word first others rfl
      rw [Reading.ofWord, Kind.ofWord, if_pos (isReserved_iff.2 listed)] at hreads
      exact ⟨_, hreads⟩
  | @identifier c cs first others unlisted =>
      have hreads : Reads preceding (.ofWord (c :: cs)) [] := .word first others rfl
      rw [Reading.ofWord, Kind.ofWord, if_neg (fun hr => unlisted (isReserved_iff.1 hr))] at hreads
      exact ⟨_, hreads⟩
  | integer isSign isWhole =>
      have hreads := Reads.exists_of_parts isSign isWhole (.inl rfl) (.inl rfl)
      simpa using hreads
  | real isSign isWhole isFraction isExponent isReal =>
      have hreads := Reads.exists_of_parts isSign isWhole isFraction isExponent
      rw [if_pos isReal] at hreads
      simpa only [List.append_assoc] using hreads
  | char c => exact ⟨_, .char c []⟩
  | string plain => exact ⟨_, .string plain⟩
  | symbol fixed => exact ⟨_, .symbol fixed rfl⟩
  | point between =>
      have hreads : Reads preceding _ [] := .point []
      exact ⟨_, by simpa [Preceding.dotEndsProgram, between] using hreads⟩
  | ending last =>
      have hreads : Reads preceding _ [] := .point []
      exact ⟨_, by simpa [Preceding.dotEndsProgram, last] using hreads⟩

/-- A text spells tokens of one kind only. -/
theorem Spelling.kind_unique {preceding : Preceding} {text : List Char} {k l : Kind}
    (hk : Spelling preceding text k) (hl : Spelling preceding text l) : k = l := by
  obtain ⟨_, hk⟩ := hk.exists_reads
  obtain ⟨_, hl⟩ := hl.exists_reads
  have heq := Option.some.inj (hk.read?_eq.symm.trans hl.read?_eq)
  exact congrArg (·.token.kind) heq

/-! ## no longer text spells a token -/

/-- What is read of a text is read of a longer one as well, and perhaps more. -/
theorem Scan.Reads.read?_append {preceding : Preceding} {r : Reading} {rest : List Char}
    (h : Reads preceding r rest) :
    ∃ r', Reading.read? preceding (r.text ++ rest) = some r' ∧ r.text.length ≤ r'.text.length :=
  ⟨r, h.read?_eq, Nat.le_refl _⟩

/-- In front of a word, at least the word is taken. -/
theorem Spelling.length_le_of_word {preceding : Preceding} {c : Char} {cs : List Char}
    (first : isWordStart c = true) (others : ∀ d ∈ cs, isWordPart d = true) (rest : List Char) :
    ∃ r, Reading.read? preceding (c :: cs ++ rest) = some r ∧
      (c :: cs).length ≤ r.text.length := by
  have hall : ∀ d ∈ c :: cs, isWordPart d = true :=
    List.forall_mem_cons.2 ⟨isWordPart_of_isWordStart first, others⟩
  exact ⟨_, Reading.read?_of_isWordStart first,
    length_le_takeWhile hall (List.prefix_append (c :: cs) rest)⟩

/-- A symbol of two characters is read whatever follows; what is read is never
shorter than a symbol of one. -/
theorem Spelling.length_le_of_symbol {preceding : Preceding} {text : List Char} {kind : Kind}
    (fixed : (text, kind) ∈ symbols) (rest : List Char) :
    ∃ r, Reading.read? preceding (text ++ rest) = some r ∧ text.length ≤ r.text.length := by
  have key : ∀ s ∈ symbols, s.1.length = 1 ∨
      s.1 ∈ [[':', '='], ['<', '='], ['<', '>'], ['>', '=']] := by decide
  rcases key _ fixed with hlen | hlong
  · obtain ⟨c, tail, rfl, hc⟩ := mem_symbolStarts_of_mem_symbols fixed
    cases hread : Reading.read? preceding (c :: tail ++ rest) with
    | none =>
        exact absurd hread
          (Reading.read?_ne_none_of_mem_punctuation (List.mem_append_left _ hc))
    | some r =>
        have hpos := List.length_pos_iff.2 (Reading.text_ne_nil hread)
        exact ⟨r, rfl, by simp only at hlen; omega⟩
  · have hstop : goesOn (joinsSymbol preceding text) rest = false := by
      simp only [List.mem_cons, List.not_mem_nil, or_false] at hlong
      rcases hlong with rfl | rfl | rfl | rfl <;> exact goesOn_never rest
    exact (Reads.symbol fixed hstop).read?_append

/-- Where a spelling stands, a token is read, and it is not shorter. -/
theorem Spelling.length_le {preceding : Preceding} {text : List Char} {kind : Kind}
    (h : Spelling preceding text kind) (rest : List Char) :
    ∃ r, Reading.read? preceding (text ++ rest) = some r ∧ text.length ≤ r.text.length := by
  cases h with
  | reserved first others => exact length_le_of_word first others rest
  | identifier first others => exact length_le_of_word first others rest
  | @integer sign whole isSign isWhole =>
      have hread := Reading.read?_of_isSign isSign (Numeral.goesOn_of_isDigits isWhole rest)
      rw [List.append_assoc]
      exact ⟨_, hread, Numeral.length_le_of_integer sign isWhole.2 (List.prefix_append _ _)⟩
  | @real sign whole fraction exponent isSign isWhole isFraction isExponent isReal =>
      have hread := Reading.read?_of_isSign isSign
        (Numeral.goesOn_of_isDigits isWhole (fraction ++ (exponent ++ rest)))
      simp only [List.append_assoc]
      refine ⟨_, hread, Numeral.length_le_of_real sign isWhole.2 isFraction isExponent isReal ?_⟩
      exact ⟨rest, by simp⟩
  | char c => exact (Reads.char c rest).read?_append
  | string plain =>
      have hreads : Reads preceding _ rest := .string plain
      exact hreads.read?_append
  | symbol fixed => exact length_le_of_symbol fixed rest
  | point => exact (Reads.point rest).read?_append
  | ending => exact (Reads.point rest).read?_append

/-- Whether a text is the longest front part of another that is a spelling, and
of which kind. -/
structure IsLongestSpelling (preceding : Preceding) (cs text : List Char) (kind : Kind) : Prop where
  isPrefix : text <+: cs
  spelling : Spelling preceding text kind
  kind_unique : ∀ k, Spelling preceding text k → k = kind
  longest : ∀ longer k, Spelling preceding longer k → longer <+: cs → longer.length ≤ text.length

/-- A token that is read without a fault is the longest one spelled there. -/
theorem Scan.Reads.isLongestSpelling {preceding : Preceding} {r : Reading} {rest : List Char}
    (h : Reads preceding r rest) (hfault : r.fault = none) :
    IsLongestSpelling preceding (r.text ++ rest) r.text r.token.kind where
  isPrefix := List.prefix_append _ _
  spelling := h.spelling hfault
  kind_unique := fun _ hk => hk.kind_unique (h.spelling hfault)
  longest := by
    rintro longer k hlonger ⟨tail, htail⟩
    obtain ⟨r', hread, hle⟩ := hlonger.length_le tail
    rw [htail, h.read?_eq] at hread
    obtain rfl := Option.some.inj hread
    exact hle

/-! ## characters that start nothing -/

/-- Every character that starts a token spells one by itself. -/
theorem Spelling.exists_singleton (preceding : Preceding) {c : Char}
    (h : isWordStart c = true ∨ isDigit c = true ∨ c ∈ symbolStarts) :
    ∃ kind, Spelling preceding [c] kind := by
  rcases h with hstart | hdigit | hsymbol
  · exact ⟨_, .of_word hstart (by simp)⟩
  · exact ⟨_, .integer (.inl rfl) ⟨by simp, by simpa using hdigit⟩⟩
  · have key : symbolStarts.all
        (fun c => c == '.' || (symbols.map Prod.fst).contains [c]) = true := by decide
    have hc := List.all_eq_true.1 key c hsymbol
    simp only [Bool.or_eq_true, beq_iff_eq, List.contains_iff_mem, List.mem_map] at hc
    obtain rfl | ⟨⟨_, kind⟩, fixed, rfl⟩ := hc
    · by_cases hend : preceding = .endWord
      · exact ⟨_, .ending hend⟩
      · exact ⟨_, .point hend⟩
    · exact ⟨kind, .symbol fixed⟩

/-- A character starts nothing exactly if it is no blank and no quote, and no
spelling starts with it. -/
theorem startsNothing_iff (preceding : Preceding) (c : Char) (rest : List Char) :
    startsNothing c = true ↔ isBlank c = false ∧ c ≠ '\'' ∧ c ≠ '"' ∧
      ∀ text kind, Spelling preceding text kind → ¬ text <+: c :: rest := by
  constructor
  · intro h
    have hnext : Item.next? preceding (c :: rest) = _ := Item.next?_unrecognized h
    simp only [startsNothing, Bool.and_eq_true, Bool.not_eq_true'] at h
    obtain ⟨⟨⟨hblank, -⟩, -⟩, hpunct⟩ := h
    have hpunct : c ∉ punctuation := by simpa using hpunct
    refine ⟨hblank, ?_, ?_, ?_⟩
    · rintro rfl
      exact hpunct (by decide)
    · rintro rfl
      exact hpunct (by decide)
    · rintro text kind hspelling ⟨tail, htail⟩
      obtain ⟨r, hread, -⟩ := hspelling.length_le tail
      have hcomment (body : List Char) : c :: rest ≠ '/' :: '*' :: body := by
        intro heq
        obtain ⟨rfl, -⟩ := List.cons.inj heq
        exact hpunct (by decide)
      rw [htail] at hread
      rw [Item.next?_of_not_comment hblank hcomment, hread] at hnext
      simp at hnext
  · rintro ⟨hblank, hquote, hdouble, hnone⟩
    -- What starts a token would spell one by itself.
    have hfree : ¬ (isWordStart c = true ∨ isDigit c = true ∨ c ∈ symbolStarts) := by
      intro h
      obtain ⟨kind, hspelling⟩ := Spelling.exists_singleton preceding h
      exact hnone _ _ hspelling ⟨rest, rfl⟩
    simp only [not_or, Bool.not_eq_true] at hfree
    simp [startsNothing, hblank, hfree, punctuation, hquote, hdouble]

/-- A character is reported as unrecognized exactly if it starts nothing. -/
theorem Scan.Item.next?_eq_unrecognized_iff {preceding : Preceding} {c : Char} {rest : List Char} :
    Item.next? preceding (c :: rest) = some (.skipped (.unrecognized c)) ↔
      startsNothing c = true :=
  ⟨isProper_of_next?, next?_unrecognized⟩

/-! ## the scanner -/

namespace Scan.Scanner

/-- A complete token is read from the longest spelling that stands where it
starts, after a gap that is passed over.  A character is passed over as one
that starts no token exactly if it is no blank and no quote, and no spelling
starts with it. -/
theorem pull_takes_longest_spelling (source : String) (s : Scanner) :
    (s.Reached source → ∀ token s', s.pull = (some (.ok token), s') →
      ∃ gap text, IsClosedGap gap ∧
        s.reader.ahead = gapText gap ++ (text ++ s'.reader.ahead) ∧
        s'.region.text? source.toList = some text ∧
        IsLongestSpelling s.preceding (text ++ s'.reader.ahead) text token.kind) ∧
    ∀ c rest, s.reader.ahead = c :: rest →
      (Item.next? s.preceding s.reader.ahead = some (.skipped (.unrecognized c)) ↔
        isBlank c = false ∧ c ≠ '\'' ∧ c ≠ '"' ∧
          ∀ text kind, Spelling s.preceding text kind → ¬ text <+: c :: rest) ∧
      (Item.next? s.preceding s.reader.ahead = some (.skipped (.unrecognized c)) →
        s.pull = (s.skip (.unrecognized c)).pull) := by
  refine ⟨fun hreached token s' hpull => ?_, fun c rest hahead => ⟨?_, pull_of_skipped⟩⟩
  · obtain ⟨gap, -, -, heq⟩ | ⟨gap, r, rest, hgap, hread, hahead, heq⟩ := pull_cases s
    · rw [hpull] at heq
      simp at heq
    · have hrest : (s.skipAll gap).reader.ahead = r.text ++ rest := by
        rw [reader_skipAll hahead]
      rw [hpull, take_fst _ _ hrest] at heq
      simp only [Prod.mk.injEq, Option.some.injEq] at heq
      obtain ⟨htoken, rfl⟩ := heq
      obtain ⟨hfault, rfl⟩ := Reading.pulledAt_eq_ok_iff.1 htoken.symm
      have hafter : ((s.skipAll gap).take r).2.reader.ahead = rest := by
        rw [reader_take_of_ahead hrest]
      rw [hafter]
      exact ⟨gap, r.text, hgap, hahead, (hreached.standsIn.skipAll hahead).text?_region_take hrest,
        hread.isLongestSpelling hfault⟩
  · rw [hahead, Item.next?_eq_unrecognized_iff, startsNothing_iff]

/-- No spelling starts with `@`.  Of the number after it neither `12` nor `12.5.`
is taken. -/
theorem pull_takes_longest_number :
    ∃ s', (ofSource "@12.5.").pull = (some (.ok ⟨.realLiteral, "12.5"⟩), s') ∧
      (∃ gap text, IsClosedGap gap ∧
        (ofSource "@12.5.").reader.ahead = gapText gap ++ (text ++ s'.reader.ahead) ∧
        s'.region.text? "@12.5.".toList = some text ∧
        IsLongestSpelling .nothing (text ++ s'.reader.ahead) text .realLiteral) ∧
      ∀ text kind, Spelling .nothing text kind → ¬ text <+: "@12.5.".toList := by
  have hskip : Item.next? .nothing "@12.5.".toList = some (.skipped (.unrecognized '@')) := by
    decide +kernel
  have hnext : Item.next? .nothing "12.5.".toList =
      some (.token ⟨"12.5".toList, ⟨.realLiteral, "12.5"⟩, none⟩) := by decide +kernel
  have hpull := (pull_of_skipped (s := ofSource "@12.5.") hskip).trans (pull_of_token hnext)
  obtain ⟨hlongest, hskipped⟩ := pull_takes_longest_spelling "@12.5." (ofSource "@12.5.")
  obtain ⟨-, -, -, hnone⟩ := (hskipped '@' "12.5.".toList rfl).1.1 hskip
  exact ⟨_, hpull, hlongest (.start {}) _ _ hpull, hnone⟩

end Scan.Scanner

end PascalTokens
