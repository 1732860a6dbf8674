import PascalTokens.Proofs.Casing
import PascalTokens.Proofs.Flaws
import PascalTokens.Proofs.TokenStream

/-!
# PascalTokens.Proofs.Recasing

What the case of letters means for a scan: next to nothing.  A source in other
cases has the same tokens at the same places, in other cases themselves, the
same stray characters and messages about the same places.  Only `end` is not
the same word in capitals when a `.` follows it.

Each item of one source is turned into one of the other
(`Item.Stands.exists_recased`), and so the items of the two sources go together
(`itemsRecased_items`).  The two scans may remember different things of the last
token, but both remember an operand or neither does, and that is all that a
token other than `.` depends on.  The main statement is
`tokenize_of_toLower_eq`.
-/

namespace PascalTokens

open Text

/-- The `.` after what stands before it. -/
def Token.pointAfter (preceding : Preceding) : Token :=
  ⟨if preceding.dotEndsProgram then .endMarker else .specialSymbol, "."⟩

/-- Whether a token is a `.`, of whichever kind. -/
def Token.IsPoint (t : Token) : Prop :=
  t.lexeme = "." ∧ (t.kind = .specialSymbol ∨ t.kind = .endMarker)

/-- Whether a token is the reserved word `end`, in any case. -/
def Token.IsEndWord (t : Token) : Prop := t.kind = .reservedWord ∧ t.lexeme.toLower = "end"

/-- Whether two tokens are the reserved word `end`, and just one of them is in
small letters. -/
def Token.SpellEndApart (t t' : Token) : Prop :=
  t.IsEndWord ∧ t'.IsEndWord ∧ (t.lexeme = "end" ↔ t'.lexeme ≠ "end")

/-- Whether two tokens differ only in the case of letters, each given what stands
before it: they have the same kind, or both are a `.`. -/
structure Token.Recased (p p' : Preceding) (t t' : Token) : Prop where
  lexeme : t.lexeme.toLower = t'.lexeme.toLower
  kind : t.kind = t'.kind ∧ ¬ t.IsPoint ∨ t = .pointAfter p ∧ t' = .pointAfter p'

/-- A token with a lexeme in another case. -/
theorem Token.recased_ofList {p p' : Preceding} {kind : Kind} {cs cs' : List Char}
    (h : Text.Recased cs cs') (hpoint : ¬ Token.IsPoint ⟨kind, String.ofList cs⟩) :
    Token.Recased p p' ⟨kind, String.ofList cs⟩ ⟨kind, String.ofList cs'⟩ :=
  ⟨recased_ofList_toLower.2 h, .inl ⟨rfl, hpoint⟩⟩

/-- Tokens of other kinds are no dot. -/
theorem Token.not_isPoint {kind : Kind} (hspecial : kind ≠ .specialSymbol)
    (hend : kind ≠ .endMarker) (lexeme : String) : ¬ Token.IsPoint ⟨kind, lexeme⟩ := by
  rintro ⟨-, rfl | rfl⟩
  · exact hspecial rfl
  · exact hend rfl

/-- A dot is a dot after every token. -/
theorem Token.isPoint_pointAfter (p : Preceding) : (pointAfter p).IsPoint := by
  refine ⟨rfl, ?_⟩
  unfold pointAfter
  split
  · exact .inr rfl
  · exact .inl rfl

/-- Tokens in different cases are operands, or neither is. -/
theorem Token.Recased.minusIsOperator_eq {p p' : Preceding} {t t' : Token}
    (h : t.Recased p p' t') :
    (Preceding.ofToken t).minusIsOperator = (Preceding.ofToken t').minusIsOperator := by
  have hoperand (t : Token) : (Preceding.ofToken t).minusIsOperator = true ↔
      t.kind.isNumber = true ∨ t.kind = .identifier := by
    have hlast : Preceding.ofToken? (some t) = .operand ↔ _ := Preceding.ofToken?_eq_operand_iff
    rw [Preceding.minusIsOperator, beq_iff_eq]
    exact hlast.trans (by simp)
  have hpoint {t : Token} (ht : t.IsPoint) : (Preceding.ofToken t).minusIsOperator = false := by
    rw [Bool.eq_false_iff, ne_eq, hoperand]
    obtain ⟨-, hkind | hkind⟩ := ht <;> simp [hkind, Kind.isNumber]
  obtain ⟨hkind, -⟩ | ⟨rfl, rfl⟩ := h.kind
  · rw [Bool.eq_iff_iff, hoperand, hoperand, hkind]
  · rw [hpoint (isPoint_pointAfter p), hpoint (isPoint_pointAfter p')]

/-- Recasing keeps an `end`, though not how it is spelled. -/
theorem Token.Recased.isEndWord_iff {p p' : Preceding} {t t' : Token} (h : t.Recased p p' t') :
    t.IsEndWord ↔ t'.IsEndWord := by
  have hpoint {t : Token} (ht : t.IsPoint) : ¬ t.IsEndWord := by
    rintro ⟨hkind, -⟩
    obtain ⟨-, hkind' | hkind'⟩ := ht <;> simp [hkind] at hkind'
  obtain ⟨hkind, -⟩ | ⟨rfl, rfl⟩ := h.kind
  · rw [IsEndWord, IsEndWord, hkind, h.lexeme]
  · exact iff_of_false (hpoint (isPoint_pointAfter p)) (hpoint (isPoint_pointAfter p'))

/-- The reserved word `end` is the one spelled exactly so. -/
theorem Token.eq_end_iff {t : Token} :
    t = ⟨.reservedWord, "end"⟩ ↔ t.IsEndWord ∧ t.lexeme = "end" := by
  have hlower : "end".toLower = "end" := by
    rw [← String.toList_inj, toList_toLower]
    rfl
  obtain ⟨kind, lexeme⟩ := t
  rw [Token.mk.injEq, IsEndWord, and_assoc]
  exact and_congr_right fun _ => ⟨fun hlexeme => ⟨hlexeme ▸ hlower, hlexeme⟩, fun h => h.2⟩

/-- Tokens in different cases have different kinds only if they are a `.`, and
one of them ends the program. -/
theorem Token.Recased.kind_ne_iff {b b' : Option Token} {t t' : Token}
    (h : t.Recased (.ofToken? b) (.ofToken? b') t') :
    t'.kind ≠ t.kind ↔ t.IsPoint ∧
      (b = some ⟨.reservedWord, "end"⟩ ↔ b' ≠ some ⟨.reservedWord, "end"⟩) := by
  have hends {b : Option Token} : (Preceding.ofToken? b).dotEndsProgram = true ↔
      b = some ⟨.reservedWord, "end"⟩ := by
    rw [Preceding.dotEndsProgram, beq_iff_eq, Preceding.ofToken?_eq_endWord_iff]
  obtain ⟨hkind, hpoint⟩ | ⟨rfl, rfl⟩ := h.kind
  · exact iff_of_false (fun hne => hne hkind.symm) (fun h => hpoint h.1)
  · have hdiffer (p p' : Preceding) : (pointAfter p').kind ≠ (pointAfter p).kind ↔
        (p.dotEndsProgram = true ↔ ¬ p'.dotEndsProgram = true) := by
      unfold pointAfter
      cases p.dotEndsProgram <;> cases p'.dotEndsProgram <;> decide
    rw [hdiffer, hends, hends, and_iff_right (isPoint_pointAfter _)]

/-- How a fault is reported, but for its message. -/
def Fault.heading (f : Fault) : Severity × Option Code := (f.severity, some f.code)

/-- A message but for what it says: its severity, its code and its region. -/
def Diagnostic.heading (d : Diagnostic) : (Severity × Option Code) × Region :=
  ((d.severity, d.code), d.region)

namespace Scan

/-- Whether two readings differ only in the case of letters. -/
structure Reading.Recased (p p' : Preceding) (r r' : Reading) : Prop where
  text : Text.Recased r.text r'.text
  token : r.token.Recased p p' r'.token
  fault : r.fault.map Fault.heading = r'.fault.map Fault.heading

/-! ## numbers -/

section

variable {rest rest' : List Char}

theorem eq_or_of_toLower_eq_e {c : Char} (h : c.toLower = 'e') : c = 'e' ∨ c = 'E' := by
  have hcapitals : capitals.filter (·.toLower = 'e') = ['E'] := by decide
  rcases mem_capitals_or_toLower_eq c with hc | hc
  · have hmem : c ∈ capitals.filter (·.toLower = 'e') := List.mem_filter.2 ⟨hc, by simp [h]⟩
    rw [hcapitals] at hmem
    exact .inr (List.mem_singleton.1 hmem)
  · exact .inl (hc.symm.trans h)

/-- The mark of an exponent is one in another case. -/
theorem mem_exponentMarks_of_recased {mark mark' : List Char} (hmark : mark ∈ exponentMarks)
    (h : Text.Recased mark mark') : mark' ∈ exponentMarks := by
  have hsplit : ∀ mark ∈ exponentMarks, (mark.head?.map Char.toLower = some 'e') ∧
      mark.tail ∈ [[], ['+'], ['-']] := by decide
  have hplain : ∀ sign ∈ [[], ['+'], ['-']], isPlain sign = true := by decide
  obtain ⟨hletter, hsign⟩ := hsplit mark hmark
  cases mark with
  | nil => simp at hletter
  | cons c sign =>
      obtain ⟨c', sign', rfl, hc, hs⟩ := h.exists_of_cons
      rw [hs.eq_of_plain (hplain sign hsign)]
      have hc' : c'.toLower = 'e' := by rw [← hc]; simpa using hletter
      rw [List.tail_cons] at hsign
      rcases eq_or_of_toLower_eq_e hc' with rfl | rfl <;>
        · simp only [List.mem_cons, List.not_mem_nil, or_false] at hsign
          rcases hsign with rfl | rfl | rfl <;> decide

/-- Recasing makes no fraction where there was none. -/
theorem fractionOf_eq_nil_of_recased (h : Text.Recased rest rest')
    (hnone : Numeral.fractionOf rest = []) : Numeral.fractionOf rest' = [] := by
  rw [fractionOf_eq_nil_iff] at hnone ⊢
  rintro tail rfl
  obtain ⟨tail', rfl, htail⟩ := Text.Recased.exists_of_cons_plain h.symm (by decide)
  rw [← htail.goesOn_eq ignoresCase_isDigit]
  exact hnone tail' rfl

/-- An exponent in another case, before a text in another case. -/
theorem Exponent.IsFormed.exists_recased {e : Exponent} {text' : List Char} (form : e.IsFormed)
    (stops : e.Stops rest) (htext : Text.Recased e.text text') (hrest : Text.Recased rest rest') :
    ∃ e' : Exponent, e'.text = text' ∧ e'.IsFormed ∧ e'.Stops rest' ∧ e'.digits = e.digits := by
  obtain ⟨hmark, hdigits⟩ := form
  obtain ⟨mark', digits', rfl, hm, hd⟩ := htext.exists_of_append
  obtain rfl := hd.eq_of_plain
    (isPlain_iff.2 fun c hc => not_isAlpha_of_isDigit (hdigits c hc))
  have hsign : IgnoresCase isExponentSign := ignoresCase_of_capitals (by decide)
  have hlength : (mark' ++ e.digits).length = e.text.length := htext.length_eq
  refine ⟨⟨mark', e.digits⟩, rfl, ⟨mem_exponentMarks_of_recased hmark hm, hdigits⟩, ?_, rfl⟩
  obtain ⟨hdigit, hafter⟩ := stops
  refine ⟨by rw [hrest.goesOn_eq ignoresCase_isDigit, hdigit], fun hone => ?_⟩
  rw [hrest.goesOn_eq hsign]
  exact hafter (by rw [← hlength]; exact hone)

/-- There is no letter in a number before its exponent. -/
theorem Numeral.IsFormed.isPlain {n : Numeral} {p : Preceding} (form : n.IsFormed p) :
    isPlain (n.sign ++ (n.whole ++ n.fraction)) = true := by
  rw [isPlain_iff]
  have hdigit {c : Char} (h : isDigit c = true) : c.isAlpha = false := not_isAlpha_of_isDigit h
  refine List.forall_mem_append.2 ⟨?_, List.forall_mem_append.2 ⟨?_, ?_⟩⟩
  · obtain hsign | ⟨hsign, -⟩ := form.sign
    · simp [hsign]
    · simp [hsign]
  · exact fun c hc => hdigit (form.whole.2 c hc)
  · obtain hnone | ⟨digits, hdigits, hfraction⟩ := form.fraction
    · simp [hnone]
    · rw [hfraction]
      exact List.forall_mem_cons.2 ⟨by decide, fun c hc => hdigit (hdigits.2 c hc)⟩

/-- A number in another case, before a text in another case. -/
theorem Numeral.IsFormed.exists_recased {n : Numeral} {p p' : Preceding} {text' : List Char}
    (form : n.IsFormed p) (stops : n.Stops rest) (hp : p.minusIsOperator = p'.minusIsOperator)
    (htext : Text.Recased n.text text') (hrest : Text.Recased rest rest') :
    ∃ n' : Numeral, n'.text = text' ∧ n'.IsFormed p' ∧ n'.Stops rest' ∧
      n'.isReal = n.isReal ∧ n'.isComplete = n.isComplete := by
  have hsign : IsSign p' n.sign := by
    refine form.sign.imp_right fun ⟨hminus, hne⟩ => ⟨hminus, ?_⟩
    simpa [Preceding.minusIsOperator, hne] using hp
  rw [text_eq, ← List.append_assoc, ← List.append_assoc, List.append_assoc n.sign] at htext
  obtain ⟨front', tail', rfl, hfront, htail⟩ := htext.exists_of_append
  obtain rfl := hfront.eq_of_plain form.isPlain
  unfold Stops at stops
  cases he : n.exponent with
  | none =>
      rw [exponentText, he] at htail
      obtain rfl := recased_nil_iff.1 htail
      rw [he] at stops
      obtain ⟨hdigit, hletter, hfraction⟩ := stops
      have hignores : IgnoresCase isExponentLetter := ignoresCase_of_capitals (by decide)
      refine ⟨n, by simp [text_eq, exponentText, he], ⟨hsign, form.2, form.3, form.4⟩, ?_, rfl, rfl⟩
      rw [Stops, he]
      exact ⟨by rw [hrest.goesOn_eq ignoresCase_isDigit, hdigit],
        by rw [hrest.goesOn_eq hignores, hletter],
        fun hnone => fractionOf_eq_nil_of_recased hrest (hfraction hnone)⟩
  | some e =>
      rw [exponentText, he] at htail
      rw [he] at stops
      obtain ⟨e', rfl, hform, hstops, hdigits⟩ :=
        (form.exponent e he).exists_recased stops htail hrest
      refine ⟨{ n with exponent := some e' }, by simp [text_eq, exponentText],
        ⟨hsign, form.2, form.3, fun _ h => Option.some.inj h ▸ hform⟩, hstops, ?_, ?_⟩
      · simp [isReal, he]
      · simp [isComplete, he, hdigits]

end

/-! ## tokens -/

section

variable {p p' : Preceding} {rest rest' : List Char}

/-- Whether a sign is an operator is all that joining needs of the lookback. -/
theorem joinsSymbol_congr (hp : p.minusIsOperator = p'.minusIsOperator) (text : List Char) :
    joinsSymbol p' text = joinsSymbol p text := by
  funext d
  unfold joinsSymbol
  rw [hp]

/-- No letter joins a symbol. -/
theorem ignoresCase_joinsSymbol (p : Preceding) (text : List Char) :
    IgnoresCase (joinsSymbol p text) := by
  intro c
  have hplain {d : Char} (hd : d.isAlpha = false) : (c.toLower == d) = (c == d) :=
    ignoresCase_beq hd c
  unfold joinsSymbol
  split
  · exact hplain (by decide)
  · rw [hplain (by decide), hplain (by decide)]
  · exact hplain (by decide)
  · exact hplain (by decide)
  · rw [ignoresCase_isDigit c]
  · rfl

/-- A word is the same kind of token in any case. -/
theorem Reading.recased_ofWord {cs cs' : List Char} (h : Text.Recased cs cs') :
    (Reading.ofWord cs).Recased p p' (.ofWord cs') := by
  have hkind : Kind.ofWord (String.ofList cs') = Kind.ofWord (String.ofList cs) := h.ofWord_eq
  refine ⟨h, ?_, rfl⟩
  rw [Reading.ofWord, Reading.ofWord, hkind]
  refine Token.recased_ofList h ?_
  unfold Kind.ofWord
  split
  · exact Token.not_isPoint (by decide) (by decide) _
  · exact Token.not_isPoint (by decide) (by decide) _

/-- A number is the same kind of token in any case, and as complete. -/
theorem Reading.recased_ofNumeral {n n' : Numeral} (h : Text.Recased n.text n'.text)
    (hreal : n'.isReal = n.isReal) (hcomplete : n'.isComplete = n.isComplete) :
    (Reading.ofNumeral n).Recased p p' (.ofNumeral n') := by
  refine ⟨h, ?_, ?_⟩
  · rw [Reading.ofNumeral, Reading.ofNumeral, hreal]
    refine Token.recased_ofList h ?_
    split
    · exact Token.not_isPoint (by decide) (by decide) _
    · exact Token.not_isPoint (by decide) (by decide) _
  · simp only [Reading.ofNumeral, hcomplete]
    cases n.isComplete <;> rfl

/-- A token in another case, before a text in another case. -/
theorem Reads.exists_recased {r : Reading} {text' : List Char} (h : Reads p r rest)
    (hp : p.minusIsOperator = p'.minusIsOperator) (htext : Text.Recased r.text text')
    (hrest : Text.Recased rest rest') :
    ∃ r', r'.text = text' ∧ Reads p' r' rest' ∧ r.Recased p p' r' := by
  cases h with
  | @word c cs _ first others stops =>
      obtain ⟨c', cs', rfl, hc, hcs⟩ := htext.exists_of_cons
      refine ⟨.ofWord (c' :: cs'), rfl, .word ?_ ?_ ?_, Reading.recased_ofWord htext⟩
      · rw [ignoresCase_isWordStart.eq hc, first]
      · exact hcs.forall ignoresCase_isWordPart others
      · rw [hrest.goesOn_eq ignoresCase_isWordPart, stops]
  | @number n _ form stops =>
      obtain ⟨n', rfl, form', stops', hreal, hcomplete⟩ :=
        form.exists_recased stops hp htext hrest
      exact ⟨.ofNumeral n', rfl, .number form' stops',
        Reading.recased_ofNumeral htext hreal hcomplete⟩
  | char c rest =>
      obtain ⟨tail, rfl, htail⟩ := htext.exists_of_cons_plain (by decide)
      obtain ⟨c', last, rfl, hc, hlast⟩ := htail.exists_of_cons
      obtain rfl := hlast.eq_of_plain (by decide)
      have hlexeme : Text.Recased [c] [c'] := by simp [Text.Recased, hc]
      exact ⟨_, rfl, .char c' rest', htext,
        Token.recased_ofList hlexeme (Token.not_isPoint (by decide) (by decide) _), rfl⟩
  | @openChar c _ stops =>
      obtain ⟨tail, rfl, htail⟩ := htext.exists_of_cons_plain (by decide)
      obtain ⟨c', last, rfl, -, hlast⟩ := htail.exists_of_cons
      obtain rfl := recased_nil_iff.1 hlast
      refine ⟨_, rfl, .openChar ?_, htext,
        Token.recased_ofList htext (Token.not_isPoint (by decide) (by decide) _), rfl⟩
      rw [hrest.goesOn_eq (ignoresCase_beq (by decide)), stops]
  | loneQuote =>
      obtain rfl := htext.eq_of_plain (by decide)
      obtain rfl := recased_nil_iff.1 hrest
      exact ⟨_, rfl, .loneQuote, htext,
        ⟨rfl, .inl ⟨rfl, Token.not_isPoint (by decide) (by decide) _⟩⟩, rfl⟩
  | @string cs _ plain =>
      obtain ⟨tail, rfl, htail⟩ := htext.exists_of_cons_plain (by decide)
      obtain ⟨cs', last, rfl, hcs, hlast⟩ := htail.exists_of_append
      obtain rfl := hlast.eq_of_plain (by decide)
      exact ⟨_, rfl, .string (hcs.not_mem_of_plain (by decide) plain), htext,
        Token.recased_ofList hcs (Token.not_isPoint (by decide) (by decide) _), rfl⟩
  | @openString cs plain =>
      obtain ⟨cs', rfl, hcs⟩ := htext.exists_of_cons_plain (by decide)
      obtain rfl := recased_nil_iff.1 hrest
      exact ⟨_, rfl, .openString (hcs.not_mem_of_plain (by decide) plain), htext,
        Token.recased_ofList hcs (Token.not_isPoint (by decide) (by decide) _), rfl⟩
  | @symbol text _ kind fixed stops =>
      -- No symbol has a letter, so its text is the same.
      have hletters : ∀ s ∈ symbols, isPlain s.1 = true ∧ s.1 ≠ ['.'] := by decide
      obtain ⟨hplain, hpoint⟩ := hletters _ fixed
      obtain rfl := htext.eq_of_plain hplain
      refine ⟨_, rfl, .symbol fixed ?_, htext, Token.recased_ofList htext ?_, rfl⟩
      · rw [joinsSymbol_congr hp, hrest.goesOn_eq (ignoresCase_joinsSymbol p _), stops]
      · rintro ⟨hlexeme, -⟩
        exact hpoint (String.ofList_injective hlexeme)
  | point rest =>
      have hplain : isPlain ['.'] = true := by decide
      obtain rfl := htext.eq_of_plain hplain
      exact ⟨⟨['.'], .pointAfter p', none⟩, rfl, .point rest', htext, ⟨rfl, .inr ⟨rfl, rfl⟩⟩, rfl⟩

end

/-! ## what stands between tokens -/

/-- Whether two pieces between tokens differ only in the case of letters. -/
structure Skipped.Recased (k k' : Skipped) : Prop where
  text : Text.Recased k.text k'.text
  unrecognized? : k'.unrecognized? = k.unrecognized?
  isOpen : k'.isOpen = k.isOpen

/-- A piece between tokens in another case. -/
theorem Skipped.IsProper.exists_recased {k : Skipped} {text' : List Char} (h : k.IsProper)
    (htext : Text.Recased k.text text') :
    ∃ k' : Skipped, k'.text = text' ∧ k'.IsProper ∧ k.Recased k' := by
  have hdelimiter : isPlain commentEnd = true := by decide
  cases k with
  | blank c =>
      have hplain : c.isAlpha = false := not_isAlpha_of_isBlank h
      obtain rfl := htext.eq_of_plain (isPlain_iff.2 (List.forall_mem_singleton.2 hplain))
      exact ⟨.blank c, rfl, h, rfl, rfl, rfl⟩
  | unrecognized c =>
      have hplain : c.isAlpha = false := not_isAlpha_of_startsNothing h
      obtain rfl := htext.eq_of_plain (isPlain_iff.2 (List.forall_mem_singleton.2 hplain))
      exact ⟨.unrecognized c, rfl, h, rfl, rfl, rfl⟩
  | comment body =>
      obtain ⟨tail, rfl, htail⟩ := htext.exists_of_cons_plain (by decide)
      obtain ⟨inner, rfl, hinner⟩ := htail.exists_of_cons_plain (by decide)
      obtain ⟨body', last, rfl, hbody, hlast⟩ := hinner.exists_of_append
      obtain rfl := hlast.eq_of_plain hdelimiter
      exact ⟨.comment body', rfl, fun hin => h (hbody.infix_of_plain hdelimiter hin),
        htext, rfl, rfl⟩
  | openComment body =>
      obtain ⟨tail, rfl, htail⟩ := htext.exists_of_cons_plain (by decide)
      obtain ⟨body', rfl, hbody⟩ := htail.exists_of_cons_plain (by decide)
      exact ⟨.openComment body', rfl, fun hin => h (hbody.infix_of_plain hdelimiter hin),
        htext, rfl, rfl⟩

/-! ## items -/

/-- Whether two items differ only in the case of letters, each given what stands
before it. -/
inductive Item.Recased (p p' : Preceding) : Item → Item → Prop
  | skipped {k k' : Skipped} (piece : k.Recased k') : Recased p p' (.skipped k) (.skipped k')
  | token {r r' : Reading} (reading : r.Recased p p' r') : Recased p p' (.token r) (.token r')

/-- Whether the items of two texts differ only in the case of letters, item by
item. -/
inductive ItemsRecased : Preceding → Preceding → List Item → List Item → Prop
  | nil {p p' : Preceding} : ItemsRecased p p' [] []
  | cons {p p' : Preceding} {i i' : Item} {is is' : List Item} (first : i.Recased p p' i')
      (others : ItemsRecased (i.following p) (i'.following p') is is') :
      ItemsRecased p p' (i :: is) (i' :: is')

section

variable {p p' : Preceding}

/-- Recased items have recased texts. -/
theorem Item.Recased.text {i i' : Item} (h : i.Recased p p' i') :
    Text.Recased i.text i'.text := by
  cases h with
  | skipped piece => exact piece.text
  | token reading => exact reading.text

/-- An item in another case, before a text in another case. -/
theorem Item.Stands.exists_recased {i : Item} {text' rest rest' : List Char}
    (h : i.Stands p rest) (hp : p.minusIsOperator = p'.minusIsOperator)
    (htext : Text.Recased i.text text') (hrest : Text.Recased rest rest') :
    ∃ i' : Item, i'.text = text' ∧ i'.Stands p' rest' ∧ i.Recased p p' i' := by
  cases i with
  | skipped k =>
      obtain ⟨hk, hopen⟩ := h
      obtain ⟨k', rfl, hk', hrecased⟩ := hk.exists_recased htext
      refine ⟨.skipped k', rfl, ⟨hk', fun ho => ?_⟩, .skipped hrecased⟩
      rw [hrecased.isOpen] at ho
      rw [hopen ho] at hrest
      exact recased_nil_iff.1 hrest
  | token r =>
      obtain ⟨r', rfl, hread, hrecased⟩ := Reads.exists_recased h hp htext hrest
      exact ⟨.token r', rfl, hread, .token hrecased⟩

/-- After items in different cases both scans remember an operand, or neither. -/
theorem Item.Recased.minusIsOperator_following {i i' : Item} (h : i.Recased p p' i')
    (hp : p.minusIsOperator = p'.minusIsOperator) :
    (i.following p).minusIsOperator = (i'.following p').minusIsOperator := by
  cases h with
  | skipped => exact hp
  | token reading => exact reading.token.minusIsOperator_eq

/-- The items of a source in another case. -/
theorem itemsRecased_items {cs cs' : List Char} (hp : p.minusIsOperator = p'.minusIsOperator)
    (h : Text.Recased cs cs') : ItemsRecased p p' (items p cs) (items p' cs') := by
  fun_induction items p cs generalizing p' cs' with
  | case1 p cs hnone =>
      obtain rfl := Item.next?_eq_none_iff.1 hnone
      rw [recased_nil_iff.1 h, items_nil]
      exact .nil
  | case2 p cs i hnext ih =>
      obtain ⟨rest, rfl, hstands⟩ := Item.next?_eq_some_iff.1 hnext
      obtain ⟨text', rest', rfl, htext, hrest⟩ := h.exists_of_append
      obtain ⟨i', rfl, hstands', hrecased⟩ := hstands.exists_recased hp htext hrest
      rw [items_append hstands']
      rw [List.drop_left] at ih ⊢
      exact .cons hrecased (ih (hrecased.minusIsOperator_following hp) hrest)

/-- Unrecognized characters are no letters, so they are the same. -/
theorem ItemsRecased.unrecognized_eq {is is' : List Item} (h : ItemsRecased p p' is is') :
    is'.filterMap Item.unrecognized? = is.filterMap Item.unrecognized? := by
  have hitem {p p' : Preceding} {i i' : Item} (h : i.Recased p p' i') :
      i'.unrecognized? = i.unrecognized? := by
    have hpiece (k : Skipped) : (Item.skipped k).unrecognized? = k.unrecognized? := by
      cases k <;> rfl
    cases h with
    | skipped piece => rw [hpiece, hpiece, piece.unrecognized?]
    | token => rfl
  induction h with
  | nil => rfl
  | cons first _ ih => rw [List.filterMap_cons, List.filterMap_cons, hitem first, ih]

/-! ### places -/

/-- The regions of the tokens among items that start at a place. -/
def tokenRegions (place : Position) : List Item → List Region
  | [] => []
  | .skipped k :: is => tokenRegions (place.after k.text) is
  | .token r :: is =>
    .between place (place.after r.text) :: tokenRegions (place.after r.text) is

/-- A gap only moves the place of the tokens behind it. -/
theorem tokenRegions_map_skipped (place : Position) (gap : List Skipped) (is : List Item) :
    tokenRegions place (gap.map .skipped ++ is) = tokenRegions (place.after (gapText gap)) is := by
  induction gap generalizing place with
  | nil => rfl
  | cons k gap ih =>
      rw [List.map_cons, List.cons_append, tokenRegions, ih, gapText_cons, Position.after_append]

/-- The regions of the tokens among the items of a layout are its regions. -/
theorem Layout.tokenRegions_items (place : Position) (l : Layout) :
    tokenRegions place l.items = l.regions place := by
  induction l generalizing place with
  | ending gap =>
      rw [items, ← List.append_nil (gap.map _), tokenRegions_map_skipped]
      rfl
  | token gap r others ih => rw [items, tokenRegions_map_skipped, tokenRegions, ih, regions]

/-- Recased items have their tokens at the same regions, as a letter keeps its size. -/
theorem ItemsRecased.tokenRegions_eq {is is' : List Item} (h : ItemsRecased p p' is is')
    (place : Position) : tokenRegions place is' = tokenRegions place is := by
  induction h generalizing place with
  | nil => rfl
  | cons first _ ih =>
      cases first with
      | skipped piece => rw [tokenRegions, tokenRegions, piece.text.after_eq, ih]
      | token reading => rw [tokenRegions, tokenRegions, reading.text.after_eq, ih]

/-! ### flaws -/

/-- Recased items have faults of the same heading. -/
theorem Item.Recased.heading_fault? {i i' : Item} (h : i.Recased p p' i') :
    i'.fault?.map Fault.heading = i.fault?.map Fault.heading := by
  cases h with
  | skipped piece => rw [fault?, fault?, piece.unrecognized?]
  | token reading => exact reading.fault.symm

/-- Whatever is wrong with an item is reported in the region of its text. -/
theorem map_heading_flaws_cons (before : List Char) (i : Item) (is : List Item) :
    (flaws before (i :: is)).map (·.diagnostic.heading) =
      ((i.fault?.map Fault.heading).map fun heading =>
        (heading, Region.between (.after {} before) (.after {} (before ++ i.text)))).toList ++
      (flaws (before ++ i.text) is).map (·.diagnostic.heading) := by
  rw [flaws, List.map_append]
  congr 1
  cases i.fault? <;> rfl

/-- Recased items have flaws of the same headings, at the same regions. -/
theorem ItemsRecased.flaws_eq {is is' : List Item} (h : ItemsRecased p p' is is')
    {before before' : List Char} (hbefore : Text.Recased before before') :
    (flaws before' is').map (·.diagnostic.heading) =
      (flaws before is).map (·.diagnostic.heading) := by
  induction h generalizing before before' with
  | nil => rfl
  | cons first _ ih =>
      have hthrough := hbefore.append first.text
      rw [map_heading_flaws_cons, map_heading_flaws_cons, first.heading_fault?, ih hthrough,
        hbefore.after_eq, hthrough.after_eq]

end

/-! ## the tokens of two sources -/

/-- Whether tokens differ only in the case of letters, token by token, each list
after the token given. -/
inductive TokensRecased : Option Token → Option Token → List Token → List Token → Prop
  | nil {b b' : Option Token} : TokensRecased b b' [] []
  | cons {b b' : Option Token} {t t' : Token} {ts ts' : List Token}
      (first : t.Recased (.ofToken? b) (.ofToken? b') t')
      (others : TokensRecased (some t) (some t') ts ts') :
      TokensRecased b b' (t :: ts) (t' :: ts')

section

variable {b b' : Option Token} {ts ts' : List Token}

/-- The tokens of recased items are recased. -/
theorem ItemsRecased.tokens {is is' : List Item}
    (h : ItemsRecased (.ofToken? b) (.ofToken? b') is is') :
    TokensRecased b b' (is.filterMap Item.token?) (is'.filterMap Item.token?) := by
  generalize hp : Preceding.ofToken? b = p, hp' : Preceding.ofToken? b' = p' at h
  induction h generalizing b b' with
  | nil => exact .nil
  | cons first _ ih =>
      cases first with
      | skipped => exact ih hp hp'
      | @token r r' reading =>
          subst hp hp'
          exact .cons reading.token (ih rfl rfl)

/-- Recased token lists are equally long. -/
theorem TokensRecased.length_eq (h : TokensRecased b b' ts ts') : ts'.length = ts.length := by
  induction h with
  | nil => rfl
  | cons _ _ ih => rw [List.length_cons, List.length_cons, ih]

/-- Two tokens at the same place of the lists differ only in the case of letters,
each after the token that stands before it in its list. -/
theorem TokensRecased.getElem? (h : TokensRecased b b' ts ts') {i : Nat} {t t' : Token}
    (ht : ts[i]? = some t) (ht' : ts'[i]? = some t') :
    ∃ c c', t.Recased (.ofToken? c) (.ofToken? c') t' ∧
      (b :: ts.map some)[i]? = some c ∧ (b' :: ts'.map some)[i]? = some c' := by
  induction h generalizing i with
  | nil => simp at ht
  | @cons b b' u u' ts ts' first _ ih =>
      cases i with
      | zero =>
          obtain rfl := Option.some.inj ht
          obtain rfl := Option.some.inj ht'
          exact ⟨b, b', first, rfl, rfl⟩
      | succ i =>
          rw [List.getElem?_cons_succ] at ht ht'
          exact ih ht ht'

/-- Tokens at the same place have different kinds only if they are a `.` after
`end`, in small letters in just one of the lists. -/
theorem TokensRecased.kind_ne_iff (h : TokensRecased none none ts ts') {i : Nat} {t t' : Token}
    (ht : ts[i]? = some t) (ht' : ts'[i]? = some t') :
    t'.kind ≠ t.kind ↔ t.IsPoint ∧ ∃ j u u', i = j + 1 ∧ ts[j]? = some u ∧ ts'[j]? = some u' ∧
      u.SpellEndApart u' := by
  obtain ⟨c, c', hrecased, hc, hc'⟩ := h.getElem? ht ht'
  rw [hrecased.kind_ne_iff]
  refine and_congr_right fun _ => ?_
  -- The kind of a dot depends on the token before it; the first token has none.
  cases i with
  | zero =>
      obtain rfl := Option.some.inj hc
      obtain rfl := Option.some.inj hc'
      simp
  | succ j =>
      rw [List.getElem?_cons_succ, List.getElem?_map, Option.map_eq_some_iff] at hc hc'
      obtain ⟨u, hu, rfl⟩ := hc
      obtain ⟨u', hu', rfl⟩ := hc'
      obtain ⟨_, _, hbefore, -⟩ := h.getElem? hu hu'
      have hapart : u.SpellEndApart u' ↔
          (u = ⟨.reservedWord, "end"⟩ ↔ u' ≠ ⟨.reservedWord, "end"⟩) := by
        rw [Token.SpellEndApart, ne_eq, ne_eq, Token.eq_end_iff, Token.eq_end_iff,
          ← hbefore.isEndWord_iff]
        by_cases hend : u.IsEndWord <;> simp [hend]
      simp only [Option.some.injEq, ne_eq] at hapart ⊢
      rw [← hapart]
      constructor
      · exact fun h => ⟨j, u, u', rfl, hu, hu', h⟩
      · rintro ⟨k, v, v', hk, hv, hv', h⟩
        obtain rfl := Nat.succ.inj hk
        rw [hu] at hv
        rw [hu'] at hv'
        obtain rfl := Option.some.inj hv
        obtain rfl := Option.some.inj hv'
        exact h

end

/-- The tokens pulled from a layout are its tokens. -/
theorem Layout.map_token_pulls (place : Position) (l : Layout) :
    (l.pulls place).map (·.pulled.token) = l.tokens := by
  induction l generalizing place with
  | ending gap => rfl
  | token gap r others ih => rw [pulls, List.map_cons, ih, Reading.token_pulledAt, tokens_token]

/-- The headings that `tokenize` adds are those of the flaws. -/
theorem map_heading_log_tokenize (source : String) (log : DiagnosticLog) :
    (tokenize source log).2.toList.map Diagnostic.heading =
      log.toList.map Diagnostic.heading ++
        (flaws [] (items .nothing source.toList)).map (·.diagnostic.heading) := by
  rw [toList_log_tokenize, List.map_append, List.map_map, flawsOf]
  rfl

/-- A source in other cases has the same tokens in other cases, at the same
places, the same stray characters, and messages with the same headings.  The
kinds are the same too, but for a `.` after `end`, which ends the program if
`end` is in small letters. -/
theorem tokenize_of_toLower_eq (source source' : String) (log : DiagnosticLog)
    (h : source.toLower = source'.toLower) :
    let tokens := (tokenize source log).1
    let tokens' := (tokenize source' log).1
    let scan := (Scanner.ofSource source log).pulls
    let scan' := (Scanner.ofSource source' log).pulls
    scan.1.map (·.pulled.token) = tokens ∧ scan'.1.map (·.pulled.token) = tokens' ∧
      tokens'.length = tokens.length ∧
      scan'.1.map Pull.region = scan.1.map Pull.region ∧
      (∀ i t t', tokens[i]? = some t → tokens'[i]? = some t' →
        t'.lexeme.toLower = t.lexeme.toLower ∧
          (t'.kind = t.kind ∨ t.IsPoint ∧ t'.IsPoint) ∧
          (t'.kind ≠ t.kind ↔ t.IsPoint ∧ ∃ j u u', i = j + 1 ∧ tokens[j]? = some u ∧
            tokens'[j]? = some u' ∧ u.SpellEndApart u')) ∧
      scan'.2.unrecognized.toList = scan.2.unrecognized.toList ∧
      (tokenize source' log).2.toList.map Diagnostic.heading =
        (tokenize source log).2.toList.map Diagnostic.heading := by
  intro tokens tokens' scan scan'
  have htext : Text.Recased source.toList source'.toList := by
    rwa [← recased_ofList_toLower, String.ofList_toList, String.ofList_toList]
  -- All that is compared can be read off the items, so it is enough to compare these.
  have hitems : ItemsRecased .nothing .nothing (items .nothing source.toList)
      (items .nothing source'.toList) := itemsRecased_items rfl htext
  have htokens : TokensRecased none none tokens tokens' := by
    have hfst (source : String) := tokenize_fst source log
    rw [show tokens = _ from hfst source, show tokens' = _ from hfst source']
    exact ItemsRecased.tokens hitems
  have hscan (source : String) := Scanner.pulls_ofSource source log
  have hpulled (source : String) :
      (Scanner.ofSource source log).pulls.1.map (·.pulled.token) = (tokenize source log).1 := by
    rw [(hscan source).1, Layout.map_token_pulls, tokenize_eq_tokens]
  have hregions (source : String) : (Scanner.ofSource source log).pulls.1.map Pull.region =
      tokenRegions {} (items .nothing source.toList) := by
    rw [(hscan source).1, Layout.map_region_pulls, items_eq_items_layout, Layout.tokenRegions_items]
  have hunrecognized (source : String) :
      (Scanner.ofSource source log).pulls.2.unrecognized.toList =
        (items .nothing source.toList).filterMap Item.unrecognized? := by
    rw [(hscan source).2, items_eq_items_layout, Layout.filterMap_unrecognized?_items]
  refine ⟨hpulled source, hpulled source', htokens.length_eq, ?_, fun i t t' ht ht' => ?_, ?_, ?_⟩
  · rw [hregions source, hregions source', hitems.tokenRegions_eq]
  · obtain ⟨_, _, hrecased, -⟩ := htokens.getElem? ht ht'
    refine ⟨hrecased.lexeme.symm, ?_, htokens.kind_ne_iff ht ht'⟩
    obtain ⟨hkind, -⟩ | ⟨rfl, rfl⟩ := hrecased.kind
    · exact .inl hkind.symm
    · exact .inr ⟨Token.isPoint_pointAfter _, Token.isPoint_pointAfter _⟩
  · rw [hunrecognized source, hunrecognized source', hitems.unrecognized_eq]
  · rw [map_heading_log_tokenize, map_heading_log_tokenize, hitems.flaws_eq (.refl [])]

/-- Of `END.` and `end.` only the second ends a program.  The exponent without
digits after them is reported alike. -/
theorem tokenize_of_toLower_eq_end :
    let tokens := (tokenize "END. 2E").1
    let tokens' := (tokenize "end. 2e").1
    "END. 2E".toLower = "end. 2e".toLower ∧ tokens'.length = tokens.length ∧
      tokens[1]? = some ⟨.specialSymbol, "."⟩ ∧ tokens'[1]? = some ⟨.endMarker, "."⟩ ∧
      (∃ j u u', 1 = j + 1 ∧ tokens[j]? = some u ∧ tokens'[j]? = some u' ∧ u.SpellEndApart u') ∧
      (tokenize "end. 2e").2.toList.map Diagnostic.heading =
        (tokenize "END. 2E").2.toList.map Diagnostic.heading := by
  intro tokens tokens'
  have hlower : "END. 2E".toLower = "end. 2e".toLower := by
    rw [← String.toList_inj, toList_toLower, toList_toLower]
    decide
  obtain ⟨-, -, hlength, -, hkinds, -, hmessages⟩ := tokenize_of_toLower_eq _ _ {} hlower
  have hpoint : tokens[1]? = some ⟨.specialSymbol, "."⟩ := by decide +kernel
  have hpoint' : tokens'[1]? = some ⟨.endMarker, "."⟩ := by decide +kernel
  obtain ⟨-, -, hdiffer⟩ := hkinds 1 _ _ hpoint hpoint'
  exact ⟨hlower, hlength, hpoint, hpoint', (hdiffer.1 (by decide)).2, hmessages⟩

end Scan

end PascalTokens
