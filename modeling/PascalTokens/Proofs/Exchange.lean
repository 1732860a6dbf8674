import PascalTokens.Proofs.Relayout

/-!
# PascalTokens.Proofs.Exchange

Characters that mean nothing can be exchanged for one another.  A character is
stray if it starts no token and goes on no word; it can then stand only in a
quoted literal, in a comment, or by itself between tokens, where it is skipped.
A map of characters that changes stray characters into stray ones, and no
others (`ExchangesStray`), turns the layout of a source into the layout of the
changed source (`layout_exchange`), and so a scan of the one into a scan of the
other.

NUL is stray.  So it is no more than that: it never counts for the end of the
source, which a look past the end shows as NUL too.  The main statement is
`tokenize_exchangeNul`; that a reader which does look past the end comes to the same
items is shown in `PascalTokens.Proofs.Stepwise`.
-/

namespace PascalTokens

/-- Whether a character starts no token and goes on no word. -/
def isStray (c : Char) : Bool := startsNothing c && !isWordPart c

/-- Whether a map of characters changes stray characters into stray ones, and no
others. -/
def ExchangesStray (f : Char → Char) : Prop :=
  ∀ c, f c = c ∨ isStray c = true ∧ isStray (f c) = true

/-- Puts a character in the place of NUL. -/
def exchangeNul (c d : Char) : Char := if d = '\x00' then c else d

theorem isStray_iff {c : Char} :
    isStray c = true ↔ startsNothing c = true ∧ isWordPart c = false := by
  simp [isStray]

/-- The character that stands for the end of the text is itself a stray character. -/
theorem isStray_nul : isStray '\x00' = true := by decide

/-- NUL can be exchanged for any stray character. -/
theorem exchangesStray_exchangeNul {c : Char} (h : isStray c = true) :
    ExchangesStray (exchangeNul c) := by
  intro d
  by_cases hd : d = '\x00'
  · subst hd
    exact .inr ⟨isStray_nul, by simpa [exchangeNul] using h⟩
  · exact .inl (if_neg hd)

/-! ## characters that are not stray -/

/-- A stray character ends every token before it. -/
theorem isBreaking_of_isStray {c : Char} (h : isStray c = true) : isBreaking c = true := by
  obtain ⟨hstart, hword⟩ := isStray_iff.1 h
  exact isBreaking_of_startsNothing hstart hword

/-- Letters, digits and underscores are never stray. -/
theorem not_isStray_of_isWordPart {c : Char} (h : isWordPart c = true) : isStray c = false := by
  simp [isStray, h]

theorem not_isStray_of_isDigit {c : Char} (h : isDigit c = true) : isStray c = false :=
  not_isStray_of_isWordPart (isWordPart_of_isDigit h)

/-- A blank starts no token either, but the scanner passes it unreported. -/
theorem not_isStray_of_isBlank {c : Char} (h : isBlank c = true) : isStray c = false := by
  simp [isStray, startsNothing, h]

/-- A fixed text is told to have no stray characters by computing. -/
theorem not_isStray_of_all {cs : List Char} (h : cs.all (!isStray ·) = true) :
    ∀ c ∈ cs, isStray c = false := by
  simpa using h

namespace ExchangesStray

variable {f : Char → Char} {c d : Char} {cs part : List Char}

/-- An exchange leaves every other character alone. -/
theorem eq_of_not_isStray (hf : ExchangesStray f) (h : isStray c = false) : f c = c := by
  obtain heq | ⟨hstray, -⟩ := hf c
  · exact heq
  · rw [h] at hstray
    exact absurd hstray Bool.false_ne_true

/-- Nothing is changed into a character that is not stray. -/
theorem eq_iff (hf : ExchangesStray f) (hd : isStray d = false) : f c = d ↔ c = d := by
  constructor
  · rintro rfl
    obtain heq | ⟨-, hstray⟩ := hf c
    · exact heq.symm
    · rw [hd] at hstray
      exact absurd hstray Bool.false_ne_true
  · rintro rfl
    exact hf.eq_of_not_isStray hd

/-- A text without stray characters is its own exchange. -/
theorem map_eq_self (hf : ExchangesStray f) (h : ∀ c ∈ cs, isStray c = false) :
    cs.map f = cs := by
  have hsame : ∀ c ∈ cs, f c = id c := fun c hc => hf.eq_of_not_isStray (h c hc)
  rw [List.map_congr_left hsame, List.map_id]

/-- A text without stray characters comes from no other text. -/
theorem map_eq_iff (hf : ExchangesStray f) (h : ∀ c ∈ part, isStray c = false) :
    cs.map f = part ↔ cs = part := by
  constructor
  · intro heq
    induction cs generalizing part with
    | nil => exact heq
    | cons c cs ih =>
        subst heq
        obtain ⟨hc, hcs⟩ := List.forall_mem_cons.1 h
        have hsame : f c = c := ((hf.eq_iff hc).1 rfl).symm
        rw [List.map_cons, hsame, ← ih hcs rfl]
  · rintro rfl
    exact hf.map_eq_self h

/-- A character that is not stray is not brought into a text by an exchange. -/
theorem not_mem_map (hf : ExchangesStray f) (hd : isStray d = false) (h : d ∉ cs) :
    d ∉ cs.map f := by
  rw [List.mem_map]
  rintro ⟨c, hc, heq⟩
  exact h ((hf.eq_iff hd).1 heq ▸ hc)

/-- A text without stray characters that stands in the changed text stood in the
text before. -/
theorem infix_of_infix_map (hf : ExchangesStray f) (h : ∀ c ∈ part, isStray c = false)
    (hin : part <:+: cs.map f) : part <:+: cs := by
  obtain ⟨before, after, heq⟩ := hin
  obtain ⟨front, after', rfl, hfront, -⟩ := List.map_eq_append_iff.1 heq.symm
  obtain ⟨before', part', rfl, -, hpart⟩ := List.map_eq_append_iff.1 hfront
  rw [(hf.map_eq_iff h).1 hpart]
  exact ⟨before', after', rfl⟩

/-- After a token, the changed text agrees with the text before. -/
theorem agrees_map (hf : ExchangesStray f) (rest : List Char) : Scan.Agrees rest (rest.map f) := by
  have hbreaks {c : Char} (hc : f c ≠ c) : isBreaking (f c) = true :=
    isBreaking_of_isStray ((hf c).resolve_left hc).2
  cases rest with
  | nil => exact .inl Scan.breaks_nil
  | cons c tail =>
      by_cases hc : f c = c
      · refine .inr ⟨c, tail, tail.map f, rfl, by rw [List.map_cons, hc], ?_⟩
        cases tail with
        | nil => exact .inr rfl
        | cons d tail =>
            by_cases hd : f d = d
            · exact .inr (by simp [hd])
            · exact .inl (Scan.breaks_cons.2 (hbreaks hd))
      · exact .inl (Scan.breaks_cons.2 (hbreaks hc))

end ExchangesStray

/-! ## tokens -/

/-- A token with other characters in its lexeme. -/
def Token.exchange (f : Char → Char) (t : Token) : Token := ⟨t.kind, t.lexeme.map f⟩

theorem map_ofList (f : Char → Char) (cs : List Char) :
    (String.ofList cs).map f = String.ofList (cs.map f) := by
  simp [← String.toList_inj]

/-- An exchange acts on a lexeme character by character and leaves the kind. -/
theorem Token.exchange_ofList (f : Char → Char) (kind : Kind) (cs : List Char) :
    exchange f ⟨kind, String.ofList cs⟩ = ⟨kind, String.ofList (cs.map f)⟩ := by
  rw [exchange, map_ofList]

/-- What a token means for the one after it does not change. -/
theorem ExchangesStray.ofToken_exchange {f : Char → Char} (hf : ExchangesStray f) (t : Token) :
    Preceding.ofToken (t.exchange f) = Preceding.ofToken t := by
  have hplain : ∀ c ∈ "end".toList, isStray c = false := not_isStray_of_all (by decide)
  have hlexeme : t.lexeme.map f = "end" ↔ t.lexeme = "end" := by
    rw [← String.toList_inj, String.toList_map, hf.map_eq_iff hplain, String.toList_inj]
  have hend : (t.exchange f).isEnd = t.isEnd := by
    rw [Bool.eq_iff_iff]
    simp [Token.isEnd, Token.exchange, hlexeme]
  rw [Preceding.ofToken, hend]
  rfl

namespace Scan

/-- A reading with other characters.  What is wrong with it stays the same. -/
def Reading.exchange (f : Char → Char) (r : Reading) : Reading :=
  ⟨r.text.map f, r.token.exchange f, r.fault⟩

/-- There is no stray character in a number. -/
theorem Numeral.IsFormed.not_isStray {n : Numeral} {p : Preceding} (form : n.IsFormed p) :
    ∀ c ∈ n.text, isStray c = false := by
  have hplain : ∀ c ∈ n.text, (!isStray c) = true :=
    form.forall_mem_text (fun c hc => by simp [not_isStray_of_isDigit hc]) (by decide)
  simpa using hplain

section

variable {f : Char → Char} {p : Preceding} {r : Reading} {rest : List Char}

/-- A token without stray characters is read again before the changed text. -/
theorem Reads.exchange_of_not_isStray (hf : ExchangesStray f) {kind : Kind} {text : List Char}
    {fault : Option Fault} (h : Reads p ⟨text, ⟨kind, String.ofList text⟩, fault⟩ rest)
    (hplain : ∀ c ∈ text, isStray c = false)
    (hends : ¬ (Reading.mk text ⟨kind, String.ofList text⟩ fault).TakesRest) :
    Reads p (Reading.exchange f ⟨text, ⟨kind, String.ofList text⟩, fault⟩) (rest.map f) := by
  rw [Reading.exchange, Token.exchange_ofList, hf.map_eq_self hplain]
  exact h.of_agrees hends (hf.agrees_map rest)

/-- The changed token is read before the changed text. -/
theorem Reads.exchange (hf : ExchangesStray f) (h : Reads p r rest) :
    Reads p (r.exchange f) (rest.map f) := by
  have hquote : f '\'' = '\'' := hf.eq_of_not_isStray (by decide)
  have hdouble : f '"' = '"' := hf.eq_of_not_isStray (by decide)
  cases h with
  | @word c cs _ first others stops =>
      have hplain : ∀ d ∈ c :: cs, isStray d = false := List.forall_mem_cons.2
        ⟨not_isStray_of_isWordPart (isWordPart_of_isWordStart first),
          fun d hd => not_isStray_of_isWordPart (others d hd)⟩
      exact exchange_of_not_isStray hf (.word first others stops) hplain
        (not_takesRest_ofWord first)
  | @number n _ form stops =>
      exact exchange_of_not_isStray hf (.number form stops) form.not_isStray
        (not_takesRest_ofNumeral form)
  | char c rest =>
      simp only [Reading.exchange, Token.exchange, List.map_cons, List.map_nil, hquote,
        String.singleton_eq_ofList, map_ofList]
      exact .char (f c) (rest.map f)
  | @openChar c _ stops =>
      have hstops : goesOn (· == '\'') (rest.map f) = false :=
        (hf.agrees_map rest).goesOn_eq_false
          (fun d hd => by simpa using ne_of_isBreaking hd (d := '\'') (by decide) (by decide)) stops
      simp only [Reading.exchange, Token.exchange, map_ofList, List.map_cons, List.map_nil, hquote]
      exact .openChar hstops
  | loneQuote =>
      have hlexeme : "'".map f = "'" := by simp [← String.toList_inj, hquote]
      simp only [Reading.exchange, Token.exchange, hlexeme, List.map_cons, List.map_nil, hquote]
      exact .loneQuote
  | @string cs _ plain =>
      simp only [Reading.exchange, Token.exchange, map_ofList, List.map_append, List.map_cons,
        List.map_nil, hdouble]
      exact .string (hf.not_mem_map (by decide) plain)
  | @openString cs plain =>
      simp only [Reading.exchange, Token.exchange, map_ofList, List.map_cons, List.map_nil, hdouble]
      exact .openString (hf.not_mem_map (by decide) plain)
  | @symbol text _ kind fixed stops =>
      have hplain : ∀ s ∈ symbols, s.1.all (!isStray ·) = true := by decide
      exact exchange_of_not_isStray hf (.symbol fixed stops) (not_isStray_of_all (hplain _ fixed))
        (not_takesRest_of_mem_symbols fixed)
  | point =>
      refine exchange_of_not_isStray hf (.point rest) (not_isStray_of_all (by decide)) ?_
      simp [Reading.TakesRest]

end

/-! ## layouts -/

/-- A piece between tokens with other characters. -/
def Skipped.exchange (f : Char → Char) : Skipped → Skipped
  | blank c => blank (f c)
  | comment body => comment (body.map f)
  | openComment body => openComment (body.map f)
  | unrecognized c => unrecognized (f c)

namespace Skipped

variable {f : Char → Char}

@[simp] theorem isOpen_exchange (k : Skipped) : (k.exchange f).isOpen = k.isOpen := by
  cases k <;> rfl

/-- An unrecognized character is reported as what it is exchanged for. -/
theorem unrecognized?_exchange (k : Skipped) :
    (k.exchange f).unrecognized? = k.unrecognized?.map f := by
  cases k <;> rfl

/-- What is passed over with an exchanged item is its exchanged text. -/
theorem text_exchange (hf : ExchangesStray f) (k : Skipped) :
    (k.exchange f).text = k.text.map f := by
  have hslash : f '/' = '/' := hf.eq_of_not_isStray (by decide)
  have hstar : f '*' = '*' := hf.eq_of_not_isStray (by decide)
  cases k <;> simp [exchange, text, hslash, hstar]

/-- A passed item remains one that the scanner can meet. -/
theorem IsProper.exchange (hf : ExchangesStray f) {k : Skipped} (h : k.IsProper) :
    (k.exchange f).IsProper := by
  have hdelimiter : ∀ c ∈ commentEnd, isStray c = false := not_isStray_of_all (by decide)
  cases k with
  | blank c =>
      have hc : f c = c := hf.eq_of_not_isStray (not_isStray_of_isBlank h)
      rw [Skipped.exchange, hc]
      exact h
  | comment body => exact fun hin => h (hf.infix_of_infix_map hdelimiter hin)
  | openComment body => exact fun hin => h (hf.infix_of_infix_map hdelimiter hin)
  | unrecognized c =>
      obtain hc | ⟨-, hstray⟩ := hf c
      · rw [Skipped.exchange, hc]
        exact h
      · exact (isStray_iff.1 hstray).1

end Skipped

section

variable {f : Char → Char} {gap : List Skipped}

/-- A gap of exchanged items is the exchanged gap. -/
theorem gapText_exchange (hf : ExchangesStray f) (gap : List Skipped) :
    gapText (gap.map (Skipped.exchange f)) = (gapText gap).map f := by
  induction gap with
  | nil => rfl
  | cons k gap ih => simp [ih, k.text_exchange hf]

/-- The characters reported in an exchanged gap are the exchanged ones. -/
theorem gapUnrecognized_exchange (f : Char → Char) (gap : List Skipped) :
    gapUnrecognized (gap.map (Skipped.exchange f)) = (gapUnrecognized gap).map f := by
  induction gap with
  | nil => rfl
  | cons k gap ih =>
      rw [List.map_cons, gapUnrecognized_cons, gapUnrecognized_cons, ih, k.unrecognized?_exchange]
      cases k.unrecognized? <;> rfl

/-- A gap remains one: an exchanged character is skipped just as before. -/
theorem IsGap.exchange (hf : ExchangesStray f) (h : IsGap gap) :
    IsGap (gap.map (Skipped.exchange f)) := by
  obtain ⟨hproper, hclosed⟩ := h
  constructor
  · exact List.forall_mem_map.2 fun k hk => (hproper k hk).exchange hf
  · rw [← List.map_dropLast]
    exact List.forall_mem_map.2 fun k hk => by rw [k.isOpen_exchange, hclosed k hk]

/-- A comment that is closed stays closed, as no exchange makes or breaks a bracket. -/
theorem IsClosedGap.exchange (hf : ExchangesStray f) (h : IsClosedGap gap) :
    IsClosedGap (gap.map (Skipped.exchange f)) := by
  refine List.forall_mem_map.2 fun k hk => ?_
  obtain ⟨hproper, hclosed⟩ := h k hk
  exact ⟨hproper.exchange hf, by rw [k.isOpen_exchange, hclosed]⟩

end

namespace Layout

variable {f : Char → Char}

/-- A layout with other characters. -/
def exchange (f : Char → Char) : Layout → Layout
  | ending gap => ending (gap.map (Skipped.exchange f))
  | token gap r others => token (gap.map (Skipped.exchange f)) (r.exchange f) (others.exchange f)

/-- An exchanged layout is one of the exchanged text. -/
theorem text_exchange (hf : ExchangesStray f) (l : Layout) :
    (l.exchange f).text = l.text.map f := by
  induction l with
  | ending gap => exact gapText_exchange hf gap
  | token gap r others ih => simp [exchange, text, gapText_exchange hf, Reading.exchange, ih]

/-- The tokens of an exchanged layout are the exchanged tokens. -/
theorem readings_exchange (f : Char → Char) (l : Layout) :
    (l.exchange f).readings = l.readings.map (Reading.exchange f) := by
  induction l with
  | ending gap => rfl
  | token gap r others ih => simp [exchange, readings, ih]

/-- The unrecognized characters of an exchanged layout are the exchanged ones. -/
theorem unrecognized_exchange (f : Char → Char) (l : Layout) :
    (l.exchange f).unrecognized = l.unrecognized.map f := by
  induction l with
  | ending gap => simp [exchange, unrecognized, gaps, gapUnrecognized_exchange]
  | token gap r others ih =>
      rw [exchange, unrecognized_token, unrecognized_token, ih, gapUnrecognized_exchange,
        List.map_append]

/-- The changed layout stands where the layout does. -/
theorem Stands.exchange (hf : ExchangesStray f) {p : Preceding} {l : Layout} (h : l.Stands p) :
    (l.exchange f).Stands p := by
  induction l generalizing p with
  | ending gap => exact IsGap.exchange hf h
  | token gap r others ih =>
      obtain ⟨hgap, hread, hothers⟩ := h
      refine ⟨hgap.exchange hf, ?_, ?_⟩
      · rw [others.text_exchange hf]
        exact hread.exchange hf
      · rw [Reading.exchange, hf.ofToken_exchange]
        exact ih hothers

end Layout

/-- The layout of the changed source is the changed layout. -/
theorem layout_exchange {f : Char → Char} (hf : ExchangesStray f) (source : String) :
    layout (source.map f) = (layout source).exchange f := by
  refine layoutAfter_eq_iff.2 ⟨?_, (stands_layoutAfter .nothing source.toList).exchange hf⟩
  rw [Layout.text_exchange hf, layout, text_layoutAfter, String.toList_map]

/-- With a stray character in the place of every NUL, a source has the same
tokens but for that character in their lexemes, with the same faults, and the
same characters are skipped but for that one. -/
theorem tokenize_exchangeNul (source : String) (log log' : DiagnosticLog) {c : Char}
    (hstart : startsNothing c = true) (hword : isWordPart c = false) :
    let exchanged := source.map (exchangeNul c)
    let scan := (Scanner.ofSource source log).pulls
    let scan' := (Scanner.ofSource exchanged log').pulls
    (tokenize exchanged log').1 = (tokenize source log).1.map (Token.exchange (exchangeNul c)) ∧
      scan'.1.map (fun pull => (pull.pulled.token, pull.pulled.fault?)) =
        scan.1.map (fun pull =>
          (pull.pulled.token.exchange (exchangeNul c), pull.pulled.fault?)) ∧
      scan'.2.unrecognized.toList = scan.2.unrecognized.toList.map (exchangeNul c) := by
  intro exchanged scan scan'
  have hlayout : layout exchanged = (layout source).exchange (exchangeNul c) :=
    layout_exchange (exchangesStray_exchangeNul (isStray_iff.2 ⟨hstart, hword⟩)) source
  obtain ⟨hscan, hunrecognized⟩ := Scanner.pulls_ofSource source log
  obtain ⟨hscan', hunrecognized'⟩ := Scanner.pulls_ofSource exchanged log'
  refine ⟨?_, ?_, ?_⟩
  · rw [tokenize_eq_tokens, tokenize_eq_tokens, hlayout, Layout.tokens, Layout.tokens,
      Layout.readings_exchange, List.map_map, List.map_map]
    rfl
  · have hpairs := Layout.map_token_fault?_pulls {} (layout source)
    rw [← hscan] at hpairs
    have hmapped := congrArg (List.map fun pair : Token × Option Fault =>
      (pair.1.exchange (exchangeNul c), pair.2)) hpairs
    rw [List.map_map, List.map_map] at hmapped
    rw [hscan', Layout.map_token_fault?_pulls, hlayout, Layout.readings_exchange, List.map_map]
    exact hmapped.symm
  · rw [hunrecognized', hlayout, Layout.unrecognized_exchange, hunrecognized]

/-- NULs in a character literal, after a number without the digits of its
exponent, in a comment, and in a string that is left open at the end of the
source. -/
theorem tokenize_exchangeNul_at :
    let source := "'\x00'2e\x00/*\x00*/'\x00\"\x00"
    let exchanged := "'@'2e@/*@*/'@\"@"
    startsNothing '@' = true ∧ isWordPart '@' = false ∧
      (tokenize exchanged).1 = (tokenize source).1.map (Token.exchange (exchangeNul '@')) ∧
      (Scanner.ofSource exchanged).pulls.2.unrecognized.toList = ['@'] ∧
      (Scanner.ofSource exchanged).pulls.1.map (·.pulled.fault?) =
        [none, some (.bareExponent "2e"), some .openChar, some .openString] := by
  intro source exchanged
  have hstart : startsNothing '@' = true := by decide
  have hword : isWordPart '@' = false := by decide
  have hexchanged : source.map (exchangeNul '@') = exchanged := by
    rw [← String.toList_inj, String.toList_map]
    decide
  obtain ⟨htokens, hpairs, hskipped⟩ := tokenize_exchangeNul source {} {} hstart hword
  rw [hexchanged] at htokens hpairs hskipped
  have hfaults := congrArg (List.map Prod.snd) hpairs
  rw [List.map_map, List.map_map] at hfaults
  have hsource : (Scanner.ofSource source).pulls.1.map (·.pulled.fault?) =
      [none, some (.bareExponent "2e"), some .openChar, some .openString] := by decide +kernel
  have hnul : (Scanner.ofSource source).pulls.2.unrecognized.toList = ['\x00'] := by
    decide +kernel
  refine ⟨hstart, hword, htokens, ?_, hfaults.trans hsource⟩
  rw [hskipped, hnul]
  rfl

end Scan

end PascalTokens
