import PascalTokens.Grammar.Incomplete
import PascalTokens.Proofs.Ending

/-!
# PascalTokens.Proofs.Incomplete

Which literals are found incomplete.  The texts that start with one are those of
`StartsOpenChar`, `IsOpenString` and `LacksExponent`: a token is read there which
says so, and no other token does (`Reads.fault_eq_openChar_iff` and the two lemmas
after it).  A pull finds this out at the text that it comes to behind a gap
(`Scanner.ComesTo`).  The main statement is `Scanner.pull_incomplete_iff`.
-/

namespace PascalTokens.Scan

/-- A text does not go on with a kind of character when it is over or its first character
is of another kind. -/
theorem goesOn_eq_false_iff {q : Char → Bool} {cs : List Char} :
    goesOn q cs = false ↔ ∀ d ∈ cs.head?, q d = false := by
  cases cs <;> simp

/-! ## incomplete literals are read where they stand -/

namespace Reads

variable {preceding : Preceding} {cs rest : List Char} {r : Reading}

/-- A text starts with one token only. -/
theorem unique {r' : Reading} {rest' : List Char} (h : Reads preceding r rest)
    (h' : Reads preceding r' rest') (htext : r.text ++ rest = r'.text ++ rest') : r = r' := by
  have hread := h.read?_eq
  rw [htext, h'.read?_eq] at hread
  exact (Option.some.inj hread).symm

/-- The source takes an open quote with the one character behind it, if there is one. -/
theorem of_startsOpenChar (preceding : Preceding) (h : StartsOpenChar cs) :
    Reads preceding
      ⟨cs.take 2, ⟨.charLiteral, String.ofList (cs.take 2)⟩, some .openChar⟩ (cs.drop 2) := by
  obtain ⟨⟨tail, rfl⟩, hopen⟩ := h
  cases tail with
  | nil => exact .loneQuote
  | cons c tail =>
      refine .openChar (goesOn_beq_eq_false fun after hafter => hopen c ⟨after, ?_⟩)
      have htail : tail = '\'' :: after := hafter
      rw [htail]
      rfl

/-- The source takes an open string up to its end. -/
theorem of_isOpenString (preceding : Preceding) {content : List Char}
    (h : IsOpenString content cs) :
    Reads preceding ⟨cs, ⟨.stringLiteral, String.ofList content⟩, some .openString⟩ [] := by
  obtain ⟨rfl, hplain⟩ := h
  exact .openString hplain

/-- A number without digits in its exponent ends at the mark of it. -/
theorem of_lacksExponent {text : List Char} (h : LacksExponent preceding text rest) :
    Reads preceding
      ⟨text, ⟨.realLiteral, String.ofList text⟩, some (.bareExponent (String.ofList text))⟩
      rest := by
  cases h with
  | @mk sign whole fraction mark _ isSign isWhole isFraction isMark noDigit noSign =>
      let n : Numeral := { sign, whole, fraction, exponent := some ⟨mark, []⟩ }
      have form : n.IsFormed preceding := by
        refine ⟨isSign, isWhole, isFraction, fun e he => ?_⟩
        obtain rfl := Option.some.inj he
        exact ⟨isMark, by simp⟩
      have stops : n.Stops rest := by
        refine ⟨goesOn_eq_false_iff.2 noDigit, fun hlength => goesOn_eq_false_iff.2 fun d hd => ?_⟩
        have hd := noSign (by simpa [Exponent.text] using hlength) d hd
        simp [isExponentSign, hd.1, hd.2]
      have htext : n.text = sign ++ whole ++ fraction ++ mark := by
        simp [n, Numeral.text, Exponent.text]
      have hread := Reads.number form stops
      simpa [Reading.ofNumeral, htext, n, Numeral.isReal, Numeral.isComplete] using hread

/-! ## and nothing else is -/

/-- An open character literal is reported only where the source has one. -/
theorem startsOpenChar (h : Reads preceding r rest) (hfault : r.fault = some .openChar) :
    StartsOpenChar (r.text ++ rest) := by
  cases h with
  | word | char | string | symbol | point => simp [Reading.ofWord] at hfault
  | @number n => simp [Reading.ofNumeral] at hfault
  | openString => simp at hfault
  | @openChar c _ stops =>
    refine ⟨⟨c :: rest, rfl⟩, fun d hd => ?_⟩
    obtain ⟨tail, htail⟩ := hd
    obtain ⟨-, hrest⟩ := List.cons.inj (List.cons.inj htail).2
    have hrest : rest = '\'' :: tail := hrest.symm
    rw [hrest] at stops
    exact absurd stops (by simp)
  | loneQuote => exact ⟨⟨[], rfl⟩, fun d hd => by simpa using hd.length_le⟩

/-- An open string literal is reported only where the source has one. -/
theorem exists_isOpenString (h : Reads preceding r rest) (hfault : r.fault = some .openString) :
    ∃ content, IsOpenString content (r.text ++ rest) := by
  cases h with
  | word | char | string | symbol | point => simp [Reading.ofWord] at hfault
  | number => simp [Reading.ofNumeral] at hfault
  | openChar | loneQuote => simp at hfault
  | @openString content plain => exact ⟨content, by simp, plain⟩

/-- A bare exponent is reported only where the digits are missing. -/
theorem lacksExponent {lexeme : String} (h : Reads preceding r rest)
    (hfault : r.fault = some (.bareExponent lexeme)) : LacksExponent preceding r.text rest := by
  cases h with
  | word | char | string | symbol | point => simp [Reading.ofWord] at hfault
  | openChar | loneQuote | openString => simp at hfault
  | @number n _ form stops =>
      have hincomplete : n.isComplete = false := by
        cases hc : n.isComplete with
        | false => rfl
        | true => simp [Reading.ofNumeral, hc] at hfault
      cases he : n.exponent with
      | none => simp [Numeral.isComplete, he] at hincomplete
      | some e =>
          have hdigits : e.digits = [] := by simpa [Numeral.isComplete, he] using hincomplete
          have hstops : e.Stops rest := by simpa [Numeral.Stops, he] using stops
          have htext : n.text = n.sign ++ n.whole ++ n.fraction ++ e.mark := by
            simp [Numeral.text, he, Exponent.text, hdigits]
          rw [Reading.ofNumeral, htext]
          refine .mk form.sign form.whole form.fraction (form.exponent e he).1
            (goesOn_eq_false_iff.1 hstops.1) fun hlength d hd => ?_
          have hsign := hstops.2 (by simpa [Exponent.text, hdigits] using hlength)
          simpa [isExponentSign] using goesOn_eq_false_iff.1 hsign d hd

/-- A token is an open character literal exactly where one starts. -/
theorem fault_eq_openChar_iff (h : Reads preceding r rest) :
    r.fault = some .openChar ↔ StartsOpenChar (r.text ++ rest) := by
  refine ⟨h.startsOpenChar, fun hopen => ?_⟩
  have hunique := h.unique (of_startsOpenChar preceding hopen) (List.take_append_drop 2 _).symm
  exact congrArg Reading.fault hunique

/-- A token is an open string literal exactly where one starts. -/
theorem fault_eq_openString_iff (h : Reads preceding r rest) :
    r.fault = some .openString ↔ ∃ content, IsOpenString content (r.text ++ rest) := by
  refine ⟨h.exists_isOpenString, ?_⟩
  rintro ⟨content, hopen⟩
  have hunique := h.unique (of_isOpenString preceding hopen) (List.append_nil _).symm
  exact congrArg Reading.fault hunique

/-- A token is a number without digits in its exponent exactly where one starts. -/
theorem exists_fault_eq_bareExponent_iff (h : Reads preceding r rest) :
    (∃ lexeme, r.fault = some (.bareExponent lexeme)) ↔
      ∃ text after, r.text ++ rest = text ++ after ∧ LacksExponent preceding text after := by
  constructor
  · rintro ⟨lexeme, hfault⟩
    exact ⟨r.text, rest, rfl, h.lacksExponent hfault⟩
  · rintro ⟨text, after, htext, hlacks⟩
    exact ⟨_, congrArg Reading.fault (h.unique (of_lacksExponent hlacks) htext)⟩

end Reads

/-! ## where a pull comes to -/

namespace Scanner

variable {s : Scanner} {gap : List Skipped} {cs : List Char}

/-- Whether a scanner comes to a text behind a gap: something is left there, and no
further piece of a gap starts with it. -/
structure ComesTo (s : Scanner) (gap : List Skipped) (cs : List Char) : Prop where
  ahead : s.reader.ahead = gapText gap ++ cs
  closed : IsClosedGap gap
  ne_nil : cs ≠ []
  maximal : ∀ k : Skipped, k.IsProper → ¬ k.text <+: cs

/-- A scanner comes to a token behind a gap. -/
theorem comesTo_of_reads {r : Reading} {rest : List Char} (hgap : IsClosedGap gap)
    (hread : Reads s.preceding r rest) (h : s.reader.ahead = gapText gap ++ (r.text ++ rest)) :
    s.ComesTo gap (r.text ++ rest) where
  ahead := h
  closed := hgap
  ne_nil := by simp [hread.text_ne_nil]
  maximal := by
    rintro k hk ⟨tail, htail⟩
    cases k with
    -- Where a comment starts, open or not, there is no token.
    | comment body | openComment body => exact hread.not_comment _ htail.symm
    | blank c | unrecognized c =>
        have hskipped := Item.next?_skipped s.preceding hk
          (fun hopen => absurd hopen Bool.false_ne_true : _ → tail = [])
        rw [htail, Item.next?_token hread] at hskipped
        simp at hskipped

/-- What a scanner comes to is a token. -/
theorem ComesTo.exists_reads (h : s.ComesTo gap cs) :
    ∃ r rest, Reads s.preceding r rest ∧ cs = r.text ++ rest := by
  cases hnext : Item.next? s.preceding cs with
  | none => exact absurd (Item.next?_eq_none_iff.1 hnext) h.ne_nil
  | some i =>
      cases i with
      | skipped k => exact absurd (Item.text_isPrefix hnext) (h.maximal k (isProper_of_next? hnext))
      | token r =>
          obtain ⟨rest, hcs, hread⟩ := Item.next?_eq_some_iff.1 hnext
          exact ⟨r, rest, hread, hcs⟩

/-- A pull gives something exactly if there is a text to come to. -/
theorem pull_ne_none_iff : s.pull.1 ≠ none ↔ ∃ gap cs, s.ComesTo gap cs := by
  constructor
  · intro h
    obtain ⟨gap, -, -, hpull⟩ | ⟨gap, r, rest, hgap, hread, hahead, -⟩ := pull_cases s
    · exact absurd (congrArg Prod.fst hpull) h
    · exact ⟨gap, _, comesTo_of_reads hgap hread hahead⟩
  · rintro ⟨gap, cs, h⟩
    obtain ⟨r, rest, hread, rfl⟩ := h.exists_reads
    rw [pull_token h.closed hread h.ahead]
    exact Option.some_ne_none _

/-- What a pull gives if it finds a literal incomplete: the token made of it and its
fault, in the region of its text.  The scanner stands after that text and remembers
the token; it has recorded and reported the characters of the gap that start none,
and has not reported the literal. -/
structure GivesIncomplete (source : List Char) (s : Scanner) (gap : List Skipped)
    (text rest : List Char) (token : Token) (fault : Fault) : Prop where
  pulled : s.pull.1 = some (.error ⟨token, fault, s.pull.2.region⟩)
  region : s.pull.2.region.text? source = some text
  ahead : s.pull.2.reader.ahead = rest
  position : s.pull.2.position = (s.position.after (gapText gap)).after text
  preceding : s.pull.2.preceding = .ofToken token
  unrecognized : s.pull.2.unrecognized.toList = s.unrecognized.toList ++ gapUnrecognized gap
  log : s.pull.2.log.toList =
    s.log.toList ++ (flaws s.reader.behind.reverse (gap.map .skipped)).map Flaw.diagnostic

/-- A token with a fault is given as an incomplete literal. -/
theorem ComesTo.givesIncomplete {source : List Char} {r : Reading} {rest : List Char}
    {fault : Fault} (h : s.ComesTo gap (r.text ++ rest)) (hstands : s.StandsIn source)
    (hread : Reads s.preceding r rest) (hfault : r.fault = some fault) :
    s.GivesIncomplete source gap r.text rest r.token fault := by
  have hskip := reader_skipAll h.ahead
  have hahead : (s.skipAll gap).reader.ahead = r.text ++ rest := by rw [hskip]
  have hplace : (s.skipAll gap).position = s.position.after (gapText gap) := by
    rw [position, hskip]
  have htake := reader_take_of_ahead hahead
  have hpull := pull_token h.closed hread h.ahead
  have hstop : ((s.skipAll gap).take r).2.position = (s.skipAll gap).position.after r.text := by
    rw [position, htake]
  have hregion : ((s.skipAll gap).take r).2.region =
      .between (s.skipAll gap).position ((s.skipAll gap).position.after r.text) := by
    rw [region, itemStart_take, hstop]
  constructor
  case pulled => rw [hpull, take_fst _ _ hahead, hregion, Reading.pulledAt, hfault]
  case region => rw [hpull]; exact (hstands.skipAll h.ahead).text?_region_take hahead
  case ahead => rw [hpull, htake]
  case position => rw [hpull, hstop, hplace]
  case preceding => rw [hpull, preceding_take]
  case unrecognized => rw [hpull, unrecognized_take, unrecognized_skipAll]
  case log => rw [hpull, log_take, toList_log_skipAll hstands.place h.ahead]

/-- A pull finds a fault in what it comes to exactly if the token there has it. -/
theorem ComesTo.pull_error_iff {r : Reading} {rest : List Char}
    (h : s.ComesTo gap (r.text ++ rest)) (hread : Reads s.preceding r rest) (fault : Fault) :
    (∃ i, s.pull.1 = some (.error i) ∧ i.fault = fault) ↔ r.fault = some fault := by
  have hahead : (s.skipAll gap).reader.ahead = r.text ++ rest := by rw [reader_skipAll h.ahead]
  have hpull : s.pull.1 = some (r.pulledAt (s.skipAll gap).position) := by
    rw [pull_token h.closed hread h.ahead, take_fst _ _ hahead]
  rw [hpull]
  cases hfault : r.fault with
  | none => simp [Reading.pulledAt, hfault]
  | some fault' => simp [Reading.pulledAt, hfault]

/-! ## the three incomplete literals -/

section

variable {source : List Char}

/-- Behind the gap, pulling gives an open character literal exactly where one starts. -/
theorem ComesTo.pull_openChar_iff (h : s.ComesTo gap cs) :
    (∃ i, s.pull.1 = some (.error i) ∧ i.fault = .openChar) ↔ StartsOpenChar cs := by
  obtain ⟨r, rest, hread, rfl⟩ := h.exists_reads
  rw [h.pull_error_iff hread, hread.fault_eq_openChar_iff]

/-- Behind the gap, pulling gives an open string exactly where no closing quote follows.
-/
theorem ComesTo.pull_openString_iff (h : s.ComesTo gap cs) :
    (∃ i, s.pull.1 = some (.error i) ∧ i.fault = .openString) ↔
      ∃ content, IsOpenString content cs := by
  obtain ⟨r, rest, hread, rfl⟩ := h.exists_reads
  rw [h.pull_error_iff hread, hread.fault_eq_openString_iff]

/-- Behind the gap, pulling gives a bare exponent exactly where a numeral ends in an
exponent letter, with or without a sign, and no digit follows. -/
theorem ComesTo.pull_bareExponent_iff (h : s.ComesTo gap cs) :
    (∃ lexeme i, s.pull.1 = some (.error i) ∧ i.fault = .bareExponent lexeme) ↔
      ∃ text rest, cs = text ++ rest ∧ LacksExponent s.preceding text rest := by
  obtain ⟨r, rest, hread, rfl⟩ := h.exists_reads
  rw [← hread.exists_fault_eq_bareExponent_iff]
  exact exists_congr fun lexeme => h.pull_error_iff hread _

/-- A pull finds nothing else incomplete. -/
theorem ComesTo.pull_error_cases (h : s.ComesTo gap cs) {i : Incomplete}
    (hi : s.pull.1 = some (.error i)) :
    i.fault = .openChar ∨ i.fault = .openString ∨ ∃ lexeme, i.fault = .bareExponent lexeme := by
  obtain ⟨r, rest, hread, rfl⟩ := h.exists_reads
  obtain ⟨code, herror⟩ :=
    hread.exists_isErrorUnder ((h.pull_error_iff hread i.fault).1 ⟨i, hi, rfl⟩)
  generalize i.fault = fault at herror
  cases herror with
  | openChar => exact .inl rfl
  | openString => exact .inr (.inl rfl)
  | bareExponent lexeme => exact .inr (.inr ⟨lexeme, rfl⟩)

/-- What is given for an open character literal, in full. -/
theorem ComesTo.givesOpenChar (h : s.ComesTo gap cs) (hstands : s.StandsIn source)
    (hopen : StartsOpenChar cs) :
    s.GivesIncomplete source gap (cs.take 2) (cs.drop 2)
      ⟨.charLiteral, String.ofList (cs.take 2)⟩ .openChar := by
  have hcomes : s.ComesTo gap (cs.take 2 ++ cs.drop 2) := by rwa [List.take_append_drop]
  exact hcomes.givesIncomplete hstands (Reads.of_startsOpenChar s.preceding hopen) rfl

/-- What is given for an open string, in full: it takes the rest of the source. -/
theorem ComesTo.givesOpenString {content : List Char} (h : s.ComesTo gap cs)
    (hstands : s.StandsIn source) (hopen : IsOpenString content cs) :
    s.GivesIncomplete source gap cs [] ⟨.stringLiteral, String.ofList content⟩ .openString := by
  have hcomes : s.ComesTo gap (cs ++ []) := by rwa [List.append_nil]
  exact hcomes.givesIncomplete hstands (Reads.of_isOpenString s.preceding hopen) rfl

/-- What is given for a bare exponent, in full: the literal ends behind the mark. -/
theorem ComesTo.givesBareExponent {text rest : List Char} (h : s.ComesTo gap (text ++ rest))
    (hstands : s.StandsIn source) (hlacks : LacksExponent s.preceding text rest) :
    s.GivesIncomplete source gap text rest ⟨.realLiteral, String.ofList text⟩
      (.bareExponent (String.ofList text)) :=
  h.givesIncomplete hstands (Reads.of_lacksExponent hlacks) rfl

end

/-- A pull gives an incomplete literal exactly if the text that it comes to behind a
gap starts with one.  An open character literal takes one character after its quote,
if there is one; an open string literal takes the rest of the source; and a number
without digits in its exponent takes everything up to and with the mark of the
exponent. -/
theorem pull_incomplete_iff (source : String) (s : Scanner) (h : s.Reached source) :
    (s.pull.1 ≠ none ↔ ∃ gap cs, s.ComesTo gap cs) ∧
    ∀ gap cs, s.ComesTo gap cs →
      (((∃ i, s.pull.1 = some (.error i) ∧ i.fault = .openChar) ↔ StartsOpenChar cs) ∧
        (StartsOpenChar cs →
          s.GivesIncomplete source.toList gap (cs.take 2) (cs.drop 2)
            ⟨.charLiteral, String.ofList (cs.take 2)⟩ .openChar)) ∧
      (((∃ i, s.pull.1 = some (.error i) ∧ i.fault = .openString) ↔
          ∃ content, IsOpenString content cs) ∧
        ∀ content, IsOpenString content cs →
          s.GivesIncomplete source.toList gap cs []
            ⟨.stringLiteral, String.ofList content⟩ .openString ∧
          s.pull.2.position.offset = Text.byteLength source.toList) ∧
      (((∃ lexeme i, s.pull.1 = some (.error i) ∧ i.fault = .bareExponent lexeme) ↔
          ∃ text rest, cs = text ++ rest ∧ LacksExponent s.preceding text rest) ∧
        ∀ text rest, cs = text ++ rest → LacksExponent s.preceding text rest →
          s.GivesIncomplete source.toList gap text rest
            ⟨.realLiteral, String.ofList text⟩ (.bareExponent (String.ofList text))) ∧
      ∀ i, s.pull.1 = some (.error i) →
        i.fault = .openChar ∨ i.fault = .openString ∨
          ∃ lexeme, i.fault = .bareExponent lexeme := by
  have hstands : s.StandsIn source.toList := h.standsIn
  refine ⟨pull_ne_none_iff, fun gap cs hcomes => ⟨⟨?_, ?_⟩, ⟨?_, ?_⟩, ⟨?_, ?_⟩, ?_⟩⟩
  · exact hcomes.pull_openChar_iff
  · exact hcomes.givesOpenChar hstands
  · exact hcomes.pull_openString_iff
  · intro content hopen
    have hgives := hcomes.givesOpenString hstands hopen
    exact ⟨hgives, hstands.pull.offset_eq_of_nil hgives.ahead⟩
  · exact hcomes.pull_bareExponent_iff
  · rintro text rest rfl hlacks
    exact hcomes.givesBareExponent hstands hlacks
  · exact fun i => hcomes.pull_error_cases

/-- After `:=` the `-` is a sign, and the one after the `E` belongs to the mark of the
exponent. -/
theorem pull_incomplete_iff_exponent :
    let s := (ofSource "x:=@-1.5E-y").pull.2.pull.2
    s.Reached "x:=@-1.5E-y" ∧ s.ComesTo [.unrecognized '@'] "-1.5E-y".toList ∧
      (∃ lexeme i, s.pull.1 = some (.error i) ∧ i.fault = .bareExponent lexeme) ∧
      s.GivesIncomplete "x:=@-1.5E-y".toList [.unrecognized '@'] "-1.5E-".toList ['y']
        ⟨.realLiteral, "-1.5E-"⟩ (.bareExponent "-1.5E-") := by
  intro s
  have hreached : s.Reached "x:=@-1.5E-y" := .pull (.pull (.start {}))
  have hpreceding : s.preceding = .other := by decide +kernel
  have hahead : s.reader.ahead = "@-1.5E-y".toList := by decide +kernel
  have hsign : IsSign s.preceding ['-'] := .inr ⟨rfl, by rw [hpreceding]; decide⟩
  have hdigits (c : Char) (hc : isDigit c = true) : IsDigits [c] :=
    ⟨List.cons_ne_nil c [], fun d hd => List.mem_singleton.1 hd ▸ hc⟩
  have hrest : ∀ d ∈ ['y'].head?, isDigit d = false := fun d hd => Option.some.inj hd ▸ rfl
  have hlacks : LacksExponent s.preceding "-1.5E-".toList ['y'] :=
    @LacksExponent.mk _ ['-'] ['1'] ['.', '5'] ['E', '-'] _ hsign (hdigits '1' rfl)
      (.inr ⟨['5'], hdigits '5' rfl, rfl⟩) (by decide) hrest (by simp)
  have hgap : IsClosedGap [.unrecognized '@'] := by
    have hnothing : startsNothing '@' = true := by decide
    exact fun k hk => List.mem_singleton.1 hk ▸ ⟨hnothing, rfl⟩
  have hcomes : s.ComesTo [.unrecognized '@'] ("-1.5E-".toList ++ ['y']) :=
    comesTo_of_reads hgap (Reads.of_lacksExponent hlacks) hahead
  obtain ⟨-, hpull⟩ := pull_incomplete_iff "x:=@-1.5E-y" s hreached
  obtain ⟨-, -, ⟨hiff, hgives⟩, -⟩ := hpull _ _ hcomes
  exact ⟨hreached, hcomes, hiff.2 ⟨_, _, rfl, hlacks⟩, hgives _ _ rfl hlacks⟩

end Scanner

end PascalTokens.Scan
