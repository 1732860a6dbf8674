import PascalTokens.Proofs.Reached
import PascalTokens.Scan.Stepwise

/-!
# PascalTokens.Proofs.Stepwise

Reading step by step finds the items of a source.  A reader that looks one or two
characters ahead sees NUL past the end, as if it stood there; but wherever a
function asks for a character, NUL is not the answer that it looks for, or it has
asked first whether the source has ended (`test_current`, `test_peek_one`,
`Reader.accept_eq`).  So each function takes what is read from the text ahead
(`Takes`), and what it cuts out of the source is there.

The main statements are `readItem?_eq`, that a reader reads the item that the text
ahead starts with; `exists_readsAll`, that the tokens of a source are those to which
such steps lead; and `Scanner.StandsIn.pull_eq_readItem?`, that every pull is made
of them.
-/

namespace PascalTokens.Scan.Stepwise

variable {source : List Char} {r : Reader} {preceding : Preceding}

/-! ## what a reader sees -/

/-- A test that NUL fails tells the end of the text like a character that fails it. -/
theorem test_current {p : Char → Bool} (hp : p '\x00' = false) (r : Reader) :
    p r.current = goesOn p r.ahead := by
  cases h : r.ahead with
  | nil =>
      rw [Reader.current, Reader.peek_eq, h]
      exact hp
  | cons c rest => rw [Reader.current_of_ahead h, goesOn_cons]

/-- The same for the character after the current one. -/
theorem test_peek_one {p : Char → Bool} (hp : p '\x00' = false) (r : Reader) :
    p (r.peek 1) = goesOn p r.ahead.tail := by
  cases h : r.ahead with
  | nil =>
      rw [Reader.peek_eq, h]
      exact hp
  | cons c rest =>
      rw [Reader.peek_one_of_ahead h, List.tail_cons]
      cases rest with
      | nil => exact hp
      | cons d rest => rfl

/-- A reader has come no further exactly if it has read nothing. -/
theorem decide_offset_le_of_reads {text : List Char} {r' : Reader} (h : r.Reads text r') :
    decide (r'.position.offset ≤ r.position.offset) = text.isEmpty := by
  rw [h.offset_eq]
  cases text with
  | nil => simp
  | cons c text =>
      have hpos := c.utf8Size_pos
      rw [Text.byteLength_cons, List.isEmpty_cons, decide_eq_false_iff_not]
      omega

/-! ## what each function takes -/

/-- Whether what was taken by a reader is the token that was read from the text ahead,
all of its text and no more. -/
def Takes (r : Reader) (taken : Option Taken) (reading : Reading) : Prop :=
  ∃ stop, r.Reads reading.text stop ∧ taken = some ⟨reading.token, reading.fault, stop⟩

/-- What was taken can be cut out of the source. -/
theorem Takes.item?_eq {taken : Option Taken} {reading : Reading} (h : Takes r taken reading)
    (hstands : r.StandsIn source) :
    taken.bind (·.item? r) = some (.token reading, r.advanceBy reading.text.length) := by
  obtain ⟨stop, hread, rfl⟩ := h
  rw [Option.bind_some, Taken.item?, hstands.since?_of_reads hread, ← hread.eq_advanceBy]
  rfl

/-- A run over letters, digits and underscores takes the word. -/
theorem takes_word? (h : r.StandsIn source) : Takes r (word? r) (Reading.word r.ahead) := by
  have hread := r.reads_advanceWhile isWordPart
  refine ⟨_, hread, ?_⟩
  rw [word?, h.since?_of_reads hread]
  rfl

/-! ## numbers

A reader counts what it has taken, while a numeral is made of its parts.  The parts are
taken one after another, so each lemma here starts from the text that the one before
it has left ahead.
-/

/-- A point is taken as a fraction exactly if a digit follows it. -/
theorem exists_fraction_eq (r : Reader) :
    ∃ stop, r.Reads (Numeral.fractionOf r.ahead) stop ∧
      fraction r = (!(Numeral.fractionOf r.ahead).isEmpty, stop) := by
  have hpoint : (r.current == '.') = goesOn (· == '.') r.ahead :=
    test_current (p := (· == '.')) rfl r
  rw [fraction, hpoint, test_peek_one (p := isDigit) rfl r]
  unfold Numeral.fractionOf
  split
  · next d cs hahead =>
    rw [hahead]
    by_cases hd : isDigit d = true
    · have hadvance := Reader.reads_advance_cons hahead
      have hdigits := r.advance.reads_advanceWhile isDigit
      rw [Reader.ahead_advance_of_ahead hahead, List.takeWhile_cons_of_pos hd] at hdigits
      exact ⟨_, by simpa [hd] using hadvance.trans hdigits, by simp [hd]⟩
    · exact ⟨r, by simpa [hd] using Reader.Reads.refl r, by simp [hd]⟩
  · next hnone =>
    refine ⟨r, Reader.Reads.refl r, ?_⟩
    cases hahead : r.ahead with
    | nil => rfl
    | cons c cs =>
        cases cs with
        | nil => simp
        | cons d cs =>
            have hc : c ≠ '.' := fun hc => hnone d cs (by rw [hahead, hc])
            simp [hc]

/-- The mark of an exponent is its letter, with a sign if one follows. -/
theorem exists_afterMark {c : Char} {cs : List Char} (hahead : r.ahead = c :: cs)
    (hc : isExponentLetter c = true) :
    ∃ e, Exponent.read? r.ahead = some e ∧ r.Reads e.mark (afterMark r) ∧
      e.digits = (afterMark r).ahead.takeWhile isDigit := by
  have hletter := Reader.reads_advance_cons hahead
  have hrest := Reader.ahead_advance_of_ahead hahead
  have hc : c = 'e' ∨ c = 'E' := by simpa [isExponentLetter] using hc
  have hmark : afterMark r =
      if goesOn isExponentSign r.advance.ahead then r.advance.advance else r.advance := by
    rw [← test_current (p := isExponentSign) rfl]
    rfl
  rw [hmark, hrest, hahead]
  unfold Exponent.read?
  simp only [hc, if_true]
  -- one case for each sign, and one for none
  split
  · exact ⟨_, rfl, hletter.trans (Reader.reads_advance_cons hrest),
      congrArg _ (Reader.ahead_advance_of_ahead hrest).symm⟩
  · exact ⟨_, rfl, hletter.trans (Reader.reads_advance_cons hrest),
      congrArg _ (Reader.ahead_advance_of_ahead hrest).symm⟩
  · next hplus hminus =>
    have hnone : goesOn isExponentSign cs = false := by
      cases cs with
      | nil => rfl
      | cons d cs =>
          have hp : d ≠ '+' := fun hd => hplus cs (by rw [hd])
          have hm : d ≠ '-' := fun hd => hminus cs (by rw [hd])
          simp [isExponentSign, hp, hm]
    simp only [hnone, Bool.false_eq_true, if_false]
    exact ⟨_, rfl, hletter, congrArg _ hrest.symm⟩

/-- An exponent is taken whether it has digits or not. -/
theorem exists_exponent_eq (r : Reader) :
    ∃ stop, r.Reads (((Exponent.read? r.ahead).map Exponent.text).getD []) stop ∧
      exponent r = ((Exponent.read? r.ahead).isSome,
        (Exponent.read? r.ahead).any (·.digits.isEmpty), stop) := by
  have hletter : (r.current == 'e' || r.current == 'E') = goesOn isExponentLetter r.ahead :=
    test_current (p := isExponentLetter) rfl r
  rw [exponent, hletter]
  cases hahead : r.ahead with
  | nil => exact ⟨r, Reader.Reads.refl r, rfl⟩
  | cons c cs =>
      rw [goesOn_cons]
      cases hc : isExponentLetter c with
      | false =>
          have hnone : Exponent.read? (c :: cs) = none := Exponent.read?_eq_none_iff.2 hc
          rw [hnone]
          exact ⟨r, Reader.Reads.refl r, rfl⟩
      | true =>
          obtain ⟨e, hread, hmark, hdigits⟩ := exists_afterMark hahead hc
          have hstop := (afterMark r).reads_advanceWhile isDigit
          rw [← hdigits] at hstop
          rw [← hahead, hread]
          refine ⟨_, hmark.trans hstop, ?_⟩
          simp [decide_offset_le_of_reads hstop]

/-- A sign is taken if a `-` is there. -/
theorem exists_read_eq (r : Reader) :
    ∃ sign, r.Reads sign (r.accept '-').2 ∧
      Numeral.read r.ahead = Numeral.readUnsigned sign (r.accept '-').2.ahead := by
  rw [Reader.accept_eq]
  by_cases hminus : r.ahead.head? = some '-'
  · obtain ⟨cs, hahead⟩ := List.head?_eq_some_iff.1 hminus
    rw [if_pos hminus, Reader.ahead_advance_of_ahead hahead, hahead]
    exact ⟨['-'], Reader.reads_advance_cons hahead, rfl⟩
  · rw [if_neg hminus]
    refine ⟨[], Reader.Reads.refl r, ?_⟩
    unfold Numeral.read
    split
    · next hahead => exact absurd (by rw [hahead]; rfl) hminus
    · rfl

/-- Digits, a fraction and an exponent are taken one after another. -/
theorem exists_readUnsigned_eq (r : Reader) (sign : List Char) :
    let n := Numeral.readUnsigned sign r.ahead
    ∃ point stop, fraction (r.advanceWhile isDigit) = (!n.fraction.isEmpty, point) ∧
      exponent point = (n.exponent.isSome, n.exponent.any (·.digits.isEmpty), stop) ∧
      r.Reads (n.whole ++ n.fraction ++ (n.exponent.map Exponent.text).getD []) stop := by
  intro n
  have hwhole := r.reads_advanceWhile isDigit
  have hafterWhole := r.ahead_advanceWhile isDigit
  obtain ⟨point, hfraction, hisFraction⟩ := exists_fraction_eq (r.advanceWhile isDigit)
  obtain ⟨stop, hexponent, hisExponent⟩ := exists_exponent_eq point
  have hafterFraction : point.ahead = (r.ahead.dropWhile isDigit).drop n.fraction.length := by
    rw [← hafterWhole, hfraction.eq_advanceBy, Reader.ahead_advanceBy, hafterWhole]
    rfl
  rw [hafterWhole] at hfraction hisFraction
  rw [hafterFraction] at hexponent hisExponent
  exact ⟨point, stop, hisFraction, hisExponent, (hwhole.trans hfraction).trans hexponent⟩

/-- Digits, fraction and exponent, taken one run after the other, make up the numeral. -/
theorem takes_number? (h : r.StandsIn source) : Takes r (number? r) (Reading.number r.ahead) := by
  obtain ⟨sign, hsign, hnumeral⟩ := exists_read_eq r
  obtain ⟨point, stop, hfraction, hexponent, hrest⟩ :=
    exists_readUnsigned_eq (r.accept '-').2 sign
  have hread := hsign.trans hrest
  rw [Reading.number_eq, hnumeral]
  generalize hn : Numeral.readUnsigned sign (r.accept '-').2.ahead = n at *
  have htext : sign ++ (n.whole ++ n.fraction ++ (n.exponent.map Exponent.text).getD []) =
      n.text := by
    rw [← hn, Numeral.text]
    simp [Numeral.readUnsigned]
  have hcomplete : n.isComplete = !n.exponent.any (·.digits.isEmpty) := by
    rw [Numeral.isComplete]
    cases n.exponent <;> simp
  rw [htext] at hread
  refine ⟨stop, hread, ?_⟩
  rw [number?, hfraction]
  simp only [hexponent, h.since?_of_reads hread, Reading.ofNumeral, hcomplete, Numeral.isReal]
  cases n.exponent.any (·.digits.isEmpty) <;> rfl

/-! ## literals -/

/-- A quote that is not closed takes the text read so far. -/
theorem takes_openChar? {text : List Char} {stop : Reader} (h : r.StandsIn source)
    (hread : r.Reads text stop) :
    Takes r (openChar? r stop) ⟨text, ⟨.charLiteral, String.ofList text⟩, some .openChar⟩ := by
  refine ⟨stop, hread, ?_⟩
  rw [openChar?, h.since?_of_reads hread]
  rfl

/-- One character behind a quote without a second quote is an open literal. -/
theorem charLiteral_of_not_closed {c : Char} {tail : List Char} (h : tail.head? ≠ some '\'') :
    Reading.charLiteral (c :: tail) =
      ⟨['\'', c], ⟨.charLiteral, String.ofList ['\'', c]⟩, some .openChar⟩ := by
  unfold Reading.charLiteral
  split
  · next heq => cases heq
  · next heq =>
    obtain ⟨-, rfl⟩ := List.cons.inj heq
    exact absurd rfl h
  · next heq =>
    obtain ⟨rfl, -⟩ := List.cons.inj heq
    rfl

/-- Looking at the character behind the quote and at the one after decides the literal. -/
theorem takes_charLiteral? (h : r.StandsIn source) {cs : List Char}
    (hahead : r.ahead = '\'' :: cs) : Takes r (charLiteral? r) (Reading.charLiteral cs) := by
  have hquote := Reader.reads_advance_cons hahead
  have hquoted := Reader.ahead_advance_of_ahead hahead
  unfold charLiteral?
  cases cs with
  | nil =>
      rw [if_pos ((Reader.atEnd_iff _).2 hquoted)]
      exact takes_openChar? h hquote
  | cons c tail =>
      have hend : ¬ r.advance.atEnd = true := by simp [Reader.atEnd_iff, hquoted]
      have hchar := Reader.reads_advance_cons hquoted
      have hafter := Reader.ahead_advance_of_ahead hquoted
      have htext := hquote.trans hchar
      rw [if_neg hend, Reader.accept_eq, hafter, Reader.current_of_ahead hquoted]
      by_cases hclosed : tail.head? = some '\''
      · obtain ⟨rest, rfl⟩ := List.head?_eq_some_iff.1 hclosed
        rw [if_pos hclosed]
        exact ⟨_, htext.trans (Reader.reads_advance_cons hafter), rfl⟩
      · rw [if_neg hclosed, charLiteral_of_not_closed hclosed]
        exact takes_openChar? h htext

/-- A run up to the next double quote, taken if there is one, gives the string literal. -/
theorem takes_stringLiteral? (h : r.StandsIn source) {cs : List Char}
    (hahead : r.ahead = '"' :: cs) : Takes r (stringLiteral? r) (Reading.stringLiteral cs) := by
  have hquote := Reader.reads_advance_cons hahead
  have hquoted := Reader.ahead_advance_of_ahead hahead
  have hcontent := r.advance.reads_advanceWhile Reading.inString
  have hafter := r.advance.ahead_advanceWhile Reading.inString
  rw [hquoted] at hcontent hafter
  have hsince := (h.of_reads hquote).since?_of_reads hcontent
  rw [stringLiteral?, hsince, Reading.stringLiteral]
  cases hend : cs.dropWhile Reading.inString with
  | nil =>
      rw [hend] at hafter
      refine ⟨_, hquote.trans hcontent, ?_⟩
      simp [(Reader.atEnd_iff _).2 hafter]
  | cons c rest =>
      rw [hend] at hafter
      have hnot : ¬ (r.advance.advanceWhile Reading.inString).atEnd = true := by
        simp [Reader.atEnd_iff, hafter]
      have hc : c = '"' := by
        have hstop := goesOn_dropWhile Reading.inString cs
        rw [hend, goesOn_cons] at hstop
        simpa [Reading.inString] using hstop
      have hclose := Reader.reads_advance_cons hafter
      rw [hc] at hclose
      refine ⟨_, (hquote.trans hcontent).trans hclose, ?_⟩
      simp [hnot]

/-! ## symbols -/

/-- No symbol has more than two characters, and none has NUL for its second. -/
theorem symbol?_pair (preceding : Preceding) (c : Char) (rest : List Char) :
    Reading.symbol? preceding [c, rest.head?.getD '\x00'] =
      Reading.symbol? preceding (c :: rest) := by
  by_cases hc : c ∈ symbolStarts
  · simp only [symbolStarts, List.mem_cons, List.not_mem_nil, or_false] at hc
    rcases hc with rfl | rfl | rfl | rfl | rfl | rfl | rfl | rfl | rfl | rfl | rfl | rfl | rfl
    -- A symbol of two characters ends in an equals sign or a greater sign.
    all_goals
      cases rest with
      | nil => rfl
      | cons d rest =>
          by_cases hequal : d = '=' <;> by_cases hgreater : d = '>' <;>
            simp [Reading.symbol?, hequal, hgreater]
  · rw [Reading.symbol?_eq_none hc, Reading.symbol?_eq_none hc]

/-- A symbol is taken where one is read. -/
theorem takes_symbol? {c : Char} {rest text : List Char} {kind : Kind}
    (hahead : r.ahead = c :: rest)
    (hsymbol : Reading.symbol? preceding (c :: rest) = some (text, kind)) :
    Takes r (symbol? preceding r) ⟨text, ⟨kind, String.ofList text⟩, none⟩ := by
  obtain ⟨⟨tail, htail⟩, -⟩ := Reading.symbol?_isPrefix hsymbol
  have hread := Reader.reads_advanceBy r text.length
  rw [hahead, ← htail, List.take_left] at hread
  refine ⟨_, hread, ?_⟩
  rw [symbol?, Reader.current_of_ahead hahead, Reader.peek_one_of_ahead hahead, symbol?_pair,
    hsymbol]
  rfl

/-- Where no symbol starts, the cursor finds none. -/
theorem symbol?_eq_none_of_ahead {c : Char} {rest : List Char} (hahead : r.ahead = c :: rest)
    (hsymbol : Reading.symbol? preceding (c :: rest) = none) : symbol? preceding r = none := by
  rw [symbol?, Reader.current_of_ahead hahead, Reader.peek_one_of_ahead hahead, symbol?_pair,
    hsymbol]
  rfl

/-! ## comments -/

/-- The closing delimiter of a comment is seen where it is. -/
theorem isCommentEnd_iff (r : Reader) :
    (r.current == '*' && r.peek 1 == '/') = true ↔ commentEnd <+: r.ahead := by
  have hstar : (r.current == '*') = goesOn (· == '*') r.ahead :=
    test_current (p := (· == '*')) rfl r
  have hslash : (r.peek 1 == '/') = goesOn (· == '/') r.ahead.tail :=
    test_peek_one (p := (· == '/')) rfl r
  rw [hstar, hslash, commentEnd]
  cases r.ahead with
  | nil => simp
  | cons c cs =>
      cases cs with
      | nil => simp
      | cons d rest => simp [List.cons_prefix_cons, eq_comm (a := c), eq_comm (a := d)]

/-- Reading on to the end of a comment reads its body and the closing delimiter, or all
that is left. -/
theorem exists_closeComment_eq (r : Reader) :
    match commentBody? r.ahead with
    | some body => ∃ stop, r.Reads (body ++ commentEnd) stop ∧ closeComment r = (true, stop)
    | none => ∃ stop, r.Reads r.ahead stop ∧ closeComment r = (false, stop) := by
  -- Along the steps of the reader, each of which takes one character of the body.
  fun_induction closeComment r with
  | case1 r hend =>
      have hahead := (Reader.atEnd_iff r).1 hend
      rw [hahead]
      exact ⟨r, Reader.Reads.refl r, rfl⟩
  | case2 r hend hclose =>
      obtain ⟨rest, hrest⟩ := (isCommentEnd_iff r).1 hclose
      have hread := Reader.reads_advanceBy r 2
      rw [← hrest] at hread ⊢
      exact ⟨_, hread, rfl⟩
  | case3 r hend hclose ih =>
      cases hahead : r.ahead with
      | nil => exact absurd ((Reader.atEnd_iff r).2 hahead) hend
      | cons c rest =>
          have hnot : ¬ commentEnd <+: c :: rest := by
            rw [← hahead, ← isCommentEnd_iff]
            exact hclose
          have hfirst := Reader.reads_advance_cons hahead
          rw [Reader.ahead_advance_of_ahead hahead] at ih
          rw [commentBody?_cons hnot]
          cases hbody : commentBody? rest with
          | none =>
              rw [hbody] at ih
              obtain ⟨stop, hread, heq⟩ := ih
              exact ⟨stop, hfirst.trans hread, heq⟩
          | some body =>
              rw [hbody] at ih
              obtain ⟨stop, hread, heq⟩ := ih
              exact ⟨stop, hfirst.trans hread, heq⟩

/-- A comment is read as a whole. -/
theorem comment?_eq (h : r.StandsIn source) {cs : List Char}
    (hahead : r.ahead = '/' :: '*' :: cs) :
    comment? r =
      some (.skipped (readComment cs), r.advanceBy (readComment cs).text.length) := by
  have hopened := Reader.reads_advanceBy r 2
  rw [hahead] at hopened
  have hafter : (r.advanceBy 2).ahead = cs := by
    rw [Reader.ahead_advanceBy, hahead]
    rfl
  have hclose := exists_closeComment_eq (r.advanceBy 2)
  rw [hafter] at hclose
  unfold comment? readComment
  cases hbody : commentBody? cs with
  | none =>
      rw [hbody] at hclose
      obtain ⟨stop, hread, heq⟩ := hclose
      have hall := hopened.trans hread
      simp only [heq, (h.of_reads hopened).since?_of_reads hread]
      rw [hall.eq_advanceBy]
      rfl
  | some body =>
      rw [hbody] at hclose
      obtain ⟨stop, hread, heq⟩ := hclose
      have hall := hopened.trans hread
      simp only [heq, (h.of_reads hopened).since?_of_reads hread]
      rw [hall.eq_advanceBy]
      simp [commentEnd, Skipped.text]

/-! ## items -/

/-- A reader that stands at a `-` takes a number or the operator. -/
theorem takes_minus? (h : r.StandsIn source) {rest : List Char} (hahead : r.ahead = '-' :: rest) :
    ∃ reading, Reading.read? preceding r.ahead = some reading ∧
      Takes r (minus? preceding r) reading := by
  have hword : isWordStart '-' = false := by decide
  have hstart : Reading.startsNumber preceding ('-' :: rest) =
      (!preceding.minusIsOperator && isDigit (r.peek 1)) := by
    rw [test_peek_one (p := isDigit) rfl, hahead, List.tail_cons]
    cases rest with
    | nil => exact (Bool.and_false _).symm
    | cons d rest => rfl
  rw [minus?, ← hstart]
  cases hnumber : Reading.startsNumber preceding ('-' :: rest) with
  | true =>
      have htakes := takes_number? h
      rw [hahead] at htakes ⊢
      exact ⟨_, Reading.read?_of_startsNumber hword hnumber, htakes⟩
  | false =>
      rw [hahead]
      exact ⟨_, Reading.read?_of_symbol? (by decide) hnumber rfl, _,
        Reader.reads_advance_cons hahead, rfl⟩

/-- A comment is seen to start where it does. -/
theorem isCommentStart_iff {c : Char} {rest : List Char} (hahead : r.ahead = c :: rest) :
    (c == '/' && r.peek 1 == '*') = true ↔ ∃ body, c :: rest = '/' :: '*' :: body := by
  have hstar : (r.peek 1 == '*') = goesOn (· == '*') r.ahead.tail :=
    test_peek_one (p := (· == '*')) rfl r
  rw [hstar, hahead, List.tail_cons]
  cases rest with
  | nil => simp
  | cons d rest => simp

/-- What is taken is the next item where neither a blank nor a comment is next. -/
theorem Takes.item?_eq_next? {taken : Option Taken} {reading : Reading} {c : Char}
    {rest : List Char} (h : Takes r taken reading) (hstands : r.StandsIn source)
    (hblank : isBlank c = false) (hcomment : ¬ ∃ body, c :: rest = '/' :: '*' :: body)
    (hread : Reading.read? preceding (c :: rest) = some reading) :
    taken.bind (·.item? r) = (Item.next? preceding (c :: rest)).map fun i =>
      (i, r.advanceBy i.text.length) := by
  rw [Item.next?_of_not_comment hblank (not_exists.1 hcomment), hread, h.item?_eq hstands]
  rfl

/-- A quote or a symbol starts a token, and any other character is skipped that starts
no word and no number. -/
theorem readMark?_eq (hstands : r.StandsIn source) {c : Char} {rest : List Char}
    (hahead : r.ahead = c :: rest) (hblank : isBlank c = false) (hword : isWordStart c = false)
    (hnumber : Reading.startsNumber preceding (c :: rest) = false)
    (hcomment : ¬ ∃ body, c :: rest = '/' :: '*' :: body) :
    readMark? preceding r = (Item.next? preceding (c :: rest)).map fun i =>
      (i, r.advanceBy i.text.length) := by
  unfold readMark?
  rw [Reader.current_of_ahead hahead]
  by_cases hquote : (c == '\'') = true
  · obtain rfl := eq_of_beq hquote
    rw [if_pos hquote]
    exact (takes_charLiteral? hstands hahead).item?_eq_next? hstands hblank hcomment
      (Reading.read?_quote preceding rest)
  by_cases hdouble : (c == '"') = true
  · obtain rfl := eq_of_beq hdouble
    rw [if_neg hquote, if_pos hdouble]
    exact (takes_stringLiteral? hstands hahead).item?_eq_next? hstands hblank hcomment
      (Reading.read?_doubleQuote preceding rest)
  rw [if_neg hquote, if_neg hdouble]
  have hread : Reading.read? preceding (c :: rest) =
      Reading.symbolReading? preceding (c :: rest) := by
    have hquote : c ≠ '\'' := by simpa using hquote
    have hdouble : c ≠ '"' := by simpa using hdouble
    simp [Reading.read?, hword, hnumber, hquote, hdouble]
  rw [Reading.symbolReading?] at hread
  cases hsymbol : Reading.symbol? preceding (c :: rest) with
  | none =>
      rw [hsymbol] at hread
      have hone := (Reader.reads_advance_cons hahead).eq_advanceBy
      rw [symbol?_eq_none_of_ahead hahead hsymbol, hone,
        Item.next?_of_not_comment hblank (not_exists.1 hcomment), hread]
      rfl
  | some found =>
      rw [hsymbol] at hread
      have htakes := takes_symbol? hahead hsymbol
      rw [← htakes.item?_eq_next? hstands hblank hcomment hread]
      obtain ⟨stop, -, htaken⟩ := htakes
      rw [htaken]
      rfl

/-- A reader reads the item that the text ahead starts with, behind the blanks.  It
gives nothing only at the end of the source, so what it cuts out of the source is
always there. -/
theorem readItem?_eq (h : r.StandsIn source) (preceding : Preceding) :
    readItem? preceding r = (Item.next? preceding r.skipBlanks.ahead).map fun i =>
      (i, r.skipBlanks.advanceBy i.text.length) := by
  have hstands : r.skipBlanks.StandsIn source := h.of_reads (r.reads_advanceWhile isBlank)
  have hstop : goesOn isBlank r.skipBlanks.ahead = false := by
    rw [Reader.skipBlanks, Reader.ahead_advanceWhile]
    exact goesOn_dropWhile isBlank r.ahead
  unfold readItem?
  generalize r.skipBlanks = b at hstands hstop ⊢
  cases hahead : b.ahead with
  | nil =>
      rw [if_pos ((Reader.atEnd_iff b).2 hahead)]
      rfl
  | cons c rest =>
      have hend : ¬ b.atEnd = true := by simp [Reader.atEnd_iff, hahead]
      have hblank : isBlank c = false := by rwa [hahead, goesOn_cons] at hstop
      have hstart := isCommentStart_iff hahead
      -- The first character decides; what starts a comment is none of what is asked for
      -- before.
      rw [if_neg hend, Reader.current_of_ahead hahead]
      by_cases hcomment : ∃ body, c :: rest = '/' :: '*' :: body
      · have hdelimiter := hstart.2 hcomment
        obtain ⟨body, hbody⟩ := hcomment
        obtain ⟨rfl, rfl⟩ := List.cons.inj hbody
        have hword : ¬ isWordStart '/' = true := by decide
        have hdigit : ¬ isDigit '/' = true := by decide
        have hminus : ¬ ('/' == '-') = true := by decide
        rw [if_neg hword, if_neg hdigit, if_neg hminus, if_pos hdelimiter,
          comment?_eq hstands hahead, Item.next?_comment]
        rfl
      by_cases hword : isWordStart c = true
      · have htakes := takes_word? hstands
        rw [hahead] at htakes
        rw [if_pos hword]
        exact htakes.item?_eq_next? hstands hblank hcomment (Reading.read?_of_isWordStart hword)
      have hnotWord : isWordStart c = false := by simpa using hword
      by_cases hdigit : isDigit c = true
      · have hnumber : Reading.startsNumber preceding (c :: rest) = true :=
          Reading.startsNumber_iff.2 ⟨[], c :: rest, .inl rfl, hdigit, rfl⟩
        have htakes := takes_number? hstands
        rw [hahead] at htakes
        rw [if_neg hword, if_pos hdigit]
        exact htakes.item?_eq_next? hstands hblank hcomment
          (Reading.read?_of_startsNumber hnotWord hnumber)
      by_cases hminus : (c == '-') = true
      · obtain rfl := eq_of_beq hminus
        obtain ⟨reading, hread, htakes⟩ : ∃ reading,
            Reading.read? preceding b.ahead = some reading ∧
              Takes b (minus? preceding b) reading := takes_minus? hstands hahead
        rw [hahead] at hread
        rw [if_neg hword, if_neg hdigit, if_pos hminus]
        exact htakes.item?_eq_next? hstands hblank hcomment hread
      have hnumber : Reading.startsNumber preceding (c :: rest) = false :=
        Reading.startsNumber_eq_false (by simpa using hminus) (by simpa using hdigit)
      rw [if_neg hword, if_neg hdigit, if_neg hminus, if_neg (mt hstart.1 hcomment)]
      exact readMark?_eq hstands hahead hblank hnotWord hnumber hcomment

/-! ## a whole source -/

/-- The items that a reader reads one after another, up to the end of the source. -/
inductive ReadsAll : Preceding → Reader → List Item → Prop
  | ending {preceding : Preceding} {r : Reader} (last : readItem? preceding r = none) :
      ReadsAll preceding r []
  | item {preceding : Preceding} {r r' : Reader} {i : Item} {is : List Item}
      (first : readItem? preceding r = some (i, r'))
      (others : ReadsAll (i.following preceding) r' is) : ReadsAll preceding r (i :: is)

/-- Whether an item is no blank. -/
def isShown : Item → Bool
  | .skipped (.blank _) => false
  | _ => true

/-- Blanks in front of a text change nothing in the other items. -/
theorem filter_isShown_items (preceding : Preceding) (cs : List Char) :
    (items preceding (cs.dropWhile isBlank)).filter isShown =
      (items preceding cs).filter isShown := by
  induction cs with
  | nil => rfl
  | cons c cs ih =>
      by_cases hblank : isBlank c = true
      · have hnext : Item.next? preceding (c :: cs) = some (.skipped (.blank c)) :=
          Item.next?_blank hblank
        rw [List.dropWhile_cons_of_pos hblank, ih, items_of_next? hnext]
        rfl
      · rw [List.dropWhile_cons_of_neg hblank]

/-- Where no blank is ahead, what is read is shown. -/
theorem isShown_of_next? {cs : List Char} {i : Item} (hstop : goesOn isBlank cs = false)
    (h : Item.next? preceding cs = some i) : isShown i = true := by
  obtain ⟨rest, rfl, hstands⟩ := Item.next?_eq_some_iff.1 h
  cases i with
  | token => rfl
  | skipped k =>
      cases k with
      | comment | openComment | unrecognized => rfl
      | blank c => exact absurd (hstands.1.symm.trans hstop) Bool.noConfusion

/-- One step reads the first item that is no blank, and comes to the others. -/
theorem filter_items_of_readItem? (h : r.StandsIn source) (preceding : Preceding) :
    match readItem? preceding r with
    | none => (items preceding r.ahead).filter isShown = []
    | some (i, r') => r'.StandsIn source ∧ (items preceding r.ahead).filter isShown =
        i :: (items (i.following preceding) r'.ahead).filter isShown := by
  have hafter := r.ahead_advanceWhile isBlank
  have hstands : r.skipBlanks.StandsIn source := h.of_reads (r.reads_advanceWhile isBlank)
  rw [readItem?_eq h, ← filter_isShown_items, ← hafter, ← Reader.skipBlanks]
  cases hnext : Item.next? preceding r.skipBlanks.ahead with
  | none =>
      rw [items_of_next?_none hnext]
      rfl
  | some i =>
      have hstop : goesOn isBlank r.skipBlanks.ahead = false := by
        rw [Reader.skipBlanks, hafter]
        exact goesOn_dropWhile isBlank r.ahead
      refine ⟨hstands.of_reads (r.skipBlanks.reads_advanceBy _), ?_⟩
      rw [items_of_next? hnext, List.filter_cons_of_pos (isShown_of_next? hstop hnext),
        Reader.ahead_advanceBy]

/-- Read step by step, a source has the items that it has, its blanks apart. -/
theorem readsAll_iff (h : r.StandsIn source) {is : List Item} :
    ReadsAll preceding r is ↔ is = (items preceding r.ahead).filter isShown := by
  constructor
  · intro hall
    induction hall with
    | @ending preceding r last =>
        have hstep := filter_items_of_readItem? h preceding
        rw [last] at hstep
        exact hstep.symm
    | @item preceding r _ _ _ first _ ih =>
        have hstep := filter_items_of_readItem? h preceding
        rw [first] at hstep
        rw [hstep.2, ih hstep.1]
  -- A step is determined, so it finds the first item of the list and leads to the others.
  · intro heq
    induction is generalizing preceding r with
    | nil =>
        have hstep := filter_items_of_readItem? h preceding
        cases hread : readItem? preceding r with
        | none => exact .ending hread
        | some first =>
            rw [hread, ← heq] at hstep
            exact absurd hstep.2 (List.cons_ne_nil _ _).symm
    | cons i is ih =>
        have hstep := filter_items_of_readItem? h preceding
        cases hread : readItem? preceding r with
        | none =>
            rw [hread, ← heq] at hstep
            exact absurd hstep (List.cons_ne_nil _ _)
        | some first =>
            obtain ⟨j, r'⟩ := first
            rw [hread, ← heq] at hstep
            obtain ⟨hr', hcons⟩ := hstep
            obtain ⟨rfl, his⟩ := List.cons.inj hcons
            exact .item hread (ih hr' his)

/-- The tokens of a source are those that a reader comes to step by step, and so are
the characters that start none. -/
theorem exists_readsAll (source : String) (log : DiagnosticLog) :
    ∃ is, ReadsAll .nothing (.ofList source.toList) is ∧
      (tokenize source log).1 = is.filterMap Item.token? ∧
      (Scanner.ofSource source log).rest.2.unrecognized.toList =
        is.filterMap Item.unrecognized? := by
  have hstands := Reader.standsIn_ofList source.toList
  have hshown {β : Type} (f : Item → Option β) (hf : ∀ c, f (.skipped (.blank c)) = none) :
      (items .nothing source.toList).filterMap f =
        ((items .nothing source.toList).filter isShown).filterMap f := by
    rw [List.filterMap_filter]
    congr 1
    funext i
    cases i with
    | token => rfl
    | skipped k =>
        cases k with
        | comment | openComment | unrecognized => rfl
        | blank c => exact hf c
  refine ⟨_, (readsAll_iff hstands).2 rfl, ?_, ?_⟩
  · rw [tokenize_fst]
    exact hshown Item.token? fun _ => rfl
  · rw [unrecognized_rest_ofSource, ← Layout.filterMap_unrecognized?_items,
      ← items_eq_items_layout]
    exact hshown Item.unrecognized? fun _ => rfl

/-- Past the end a reader sees NUL, but it reads one only where one stands. -/
example : (readItem? .nothing (.ofList [' ', '\x00'])).map Prod.fst =
      some (.skipped (.unrecognized '\x00')) ∧
    readItem? .nothing (.ofList [' ']) = none := by decide

end PascalTokens.Scan.Stepwise

namespace PascalTokens.Scan.Scanner

open Stepwise

variable {s : Scanner}

/-! ## pulls

A reader passes over a run of blanks at once, and a pull passes over them one by one.
Both come to the same place, and the place where the last blank started, which is all
that they leave different, is not looked at again.
-/

/-- Where the last item started makes no difference to a pull. -/
theorem pull_itemStart (s : Scanner) (place : Position) :
    { s with itemStart := place }.pull = s.pull := by
  let t : Scanner := { s with itemStart := place }
  cases hnext : Item.next? s.preceding s.reader.ahead with
  | none => exact (pull_of_none (s := t) hnext).trans (pull_of_none hnext).symm
  | some i =>
      cases i with
      | skipped k =>
          have hskip : t.skip k = s.skip k := by cases k <;> rfl
          rw [pull_of_skipped (s := t) hnext, pull_of_skipped hnext, hskip]
      | token r =>
          have htake : t.take r = s.take r := rfl
          rw [pull_of_token (s := t) hnext, pull_of_token hnext, htake]

/-- A pull passes over the blanks that it starts at. -/
theorem pull_skipBlanks (s : Scanner) :
    s.pull = { s with reader := s.reader.skipBlanks }.pull := by
  -- On what is ahead: a blank is one turn of the run, and one item that a pull skips.
  generalize hlength : s.reader.ahead.length = n
  induction n generalizing s with
  | zero =>
      have hend := (Reader.atEnd_iff _).2 (List.length_eq_zero_iff.1 hlength)
      rw [Reader.skipBlanks, Reader.advanceWhile_eq, hend]
      rfl
  | succ n ih =>
      obtain ⟨c, rest, hahead⟩ := List.exists_cons_of_length_eq_add_one hlength
      have hstep := Reader.advanceWhile_eq s.reader isBlank
      simp only [Reader.current_of_ahead hahead, Reader.atEnd, hahead, List.isEmpty_cons,
        Bool.not_false, Bool.true_and] at hstep
      rw [Reader.skipBlanks, hstep]
      cases hblank : isBlank c with
      | false => rfl
      | true =>
          have hnext : Item.next? s.preceding s.reader.ahead = some (.skipped (.blank c)) := by
            rw [hahead, Item.next?_blank hblank]
          have hone : s.reader.advanceBy 1 = s.reader.advance :=
            (Reader.reads_advance_cons hahead).eq_advanceBy.symm
          have hskip : s.skip (.blank c) =
              { s with reader := s.reader.advance, itemStart := s.position } := by
            rw [← hone]
            rfl
          have hrest : s.reader.advance.ahead.length = n := by
            rw [Reader.ahead_advance_of_ahead hahead]
            simpa [hahead] using hlength
          rw [pull_of_skipped hnext, hskip, ih _ hrest]
          exact pull_itemStart { s with reader := s.reader.advance.skipBlanks } s.position

/-- A pull does what its reader reads: at the end of the source it gives nothing, a piece
between tokens is passed over, and a token is taken.  Each time the scanner then
stands where the reader does, so the next step reads on from there. -/
theorem StandsIn.pull_eq_readItem? {source : List Char} (h : s.StandsIn source) :
    let t := { s with reader := s.reader.skipBlanks }
    match readItem? s.preceding s.reader with
    | none => s.pull = (none, t.finish)
    | some (.skipped k, r) =>
      s.pull = (t.skip k).pull ∧ (t.skip k).reader = r ∧ (t.skip k).StandsIn source
    | some (.token reading, r) =>
      s.pull = (some (t.take reading).1, (t.take reading).2) ∧ (t.take reading).2.reader = r ∧
        (t.take reading).2.StandsIn source := by
  intro t
  have ht : t.reader.StandsIn source := h.reader.of_reads (s.reader.reads_advanceWhile isBlank)
  have hmoved (n : Nat) : (t.reader.advanceBy n).StandsIn source :=
    ht.of_reads (t.reader.reads_advanceBy n)
  have hpull : s.pull = t.pull := pull_skipBlanks s
  rw [readItem?_eq h.reader, hpull]
  cases hnext : Item.next? s.preceding s.reader.skipBlanks.ahead with
  | none => exact pull_of_none (s := t) hnext
  | some i =>
      cases i with
      | skipped k =>
          have hreader := reader_skip t k
          exact ⟨pull_of_skipped (s := t) hnext, hreader, .of_reader hreader (hmoved _)⟩
      | token reading =>
          have hreader := reader_take t reading
          exact ⟨pull_of_token (s := t) hnext, hreader, .of_reader hreader (hmoved _)⟩

end PascalTokens.Scan.Scanner
