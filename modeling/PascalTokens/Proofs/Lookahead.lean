import PascalTokens.Proofs.Reads

/-!
# PascalTokens.Proofs.Lookahead

How much of what follows a token decides where it ends.  A text that is empty
or starts with a breaking character ends every token before it, and otherwise
no more than two characters are looked at.  So a token that is read before one
text is read before every text that agrees with it that far
(`Reads.of_agrees`), unless it has taken the rest of the source.
-/

namespace PascalTokens

/-- A breaking character goes on no word. -/
theorem not_isWordPart_of_isBreaking {c : Char} (h : isBreaking c = true) :
    isWordPart c = false := by
  simp only [isBreaking, Bool.and_eq_true, Bool.not_eq_true'] at h
  exact h.1

/-- The slash is the one breaking character that is a symbol. -/
theorem not_mem_punctuation_of_isBreaking {c : Char} (h : isBreaking c = true) (hc : c ≠ '/') :
    c ∉ punctuation := by
  simp only [isBreaking, Bool.and_eq_true, Bool.or_eq_true, beq_iff_eq, Bool.not_eq_true'] at h
  simpa using h.2.resolve_left hc

/-- A breaking character is none of the other punctuation. -/
theorem ne_of_isBreaking {c d : Char} (h : isBreaking c = true) (hd : d ∈ punctuation)
    (hslash : d ≠ '/') : c ≠ d := by
  rintro rfl
  exact not_mem_punctuation_of_isBreaking h hslash hd

namespace Scan

/-- Whether a token takes the rest of the source, whatever is added to it. -/
def Reading.TakesRest (r : Reading) : Prop := r.fault = some .openString ∨ r.text = ['\'']

/-- Whether a text ends every token that stands before it. -/
def Breaks (rest : List Char) : Prop := ∀ c ∈ rest.head?, isBreaking c = true

/-- Whether one text can stand for another after a token: it breaks, or it
starts with the same character and what comes next breaks or is the same. -/
def Agrees (rest rest' : List Char) : Prop :=
  Breaks rest' ∨ ∃ c tail tail', rest = c :: tail ∧ rest' = c :: tail' ∧
    (Breaks tail' ∨ tail.head? = tail'.head?)

theorem breaks_nil : Breaks [] := by simp [Breaks]

theorem breaks_cons {c : Char} {cs : List Char} : Breaks (c :: cs) ↔ isBreaking c = true := by
  simp [Breaks]

section

variable {q : Char → Bool} {rest rest' : List Char}

/-- A run over characters that do not break ends before a text that does. -/
theorem Breaks.goesOn_eq_false (h : Breaks rest)
    (hq : ∀ c, isBreaking c = true → q c = false) : goesOn q rest = false := by
  cases rest with
  | nil => rfl
  | cons c rest => exact hq c (breaks_cons.1 h)

/-- A class without breaking characters ends before both of two texts that
agree. -/
theorem Agrees.goesOn_eq_false (h : Agrees rest rest')
    (hq : ∀ c, isBreaking c = true → q c = false) (hstop : goesOn q rest = false) :
    goesOn q rest' = false := by
  obtain hbreaks | ⟨c, tail, tail', rfl, rfl, -⟩ := h
  · exact hbreaks.goesOn_eq_false hq
  · exact hstop

end

/-! ## what ends a number -/

theorem not_isExponentLetter_of_isBreaking {c : Char} (h : isBreaking c = true) :
    isExponentLetter c = false := by
  have hword := not_isWordPart_of_isBreaking h
  rw [Bool.eq_false_iff]
  intro hletter
  simp only [isExponentLetter, Bool.or_eq_true, beq_iff_eq] at hletter
  have key : isWordPart 'e' = true ∧ isWordPart 'E' = true := by decide
  rcases hletter with rfl | rfl
  · exact Bool.false_ne_true (hword.symm.trans key.1)
  · exact Bool.false_ne_true (hword.symm.trans key.2)

theorem not_isExponentSign_of_isBreaking {c : Char} (h : isBreaking c = true) :
    isExponentSign c = false := by
  have hplus : c ≠ '+' := ne_of_isBreaking h (by decide) (by decide)
  have hminus : c ≠ '-' := ne_of_isBreaking h (by decide) (by decide)
  simp [isExponentSign, hplus, hminus]

theorem not_isDigit_of_isBreaking {c : Char} (h : isBreaking c = true) : isDigit c = false :=
  not_isDigit_of_not_isWordPart (not_isWordPart_of_isBreaking h)

/-- There is no fraction unless a digit follows the dot. -/
theorem fractionOf_eq_nil_iff {cs : List Char} :
    Numeral.fractionOf cs = [] ↔ ∀ tail, cs = '.' :: tail → goesOn isDigit tail = false := by
  constructor
  · rintro h tail rfl
    cases tail with
    | nil => rfl
    | cons d tail =>
        rw [goesOn_cons, Bool.eq_false_iff]
        intro hd
        simp [Numeral.fractionOf, hd] at h
  · intro h
    unfold Numeral.fractionOf
    split
    · next d tail =>
      have hd := h _ rfl
      rw [goesOn_cons] at hd
      simp [hd]
    · rfl

/-- Two characters are enough to see that there is no fraction. -/
theorem Agrees.fractionOf_eq_nil {rest rest' : List Char} (h : Agrees rest rest')
    (hnone : Numeral.fractionOf rest = []) : Numeral.fractionOf rest' = [] := by
  rw [fractionOf_eq_nil_iff] at hnone ⊢
  rintro tail₂ rfl
  obtain hbreaks | ⟨c, tail, tail', rfl, heq, htail⟩ := h
  · exact absurd (breaks_cons.1 hbreaks) (by decide)
  · obtain ⟨rfl, rfl⟩ := List.cons.inj heq
    have hdigit := hnone tail rfl
    rcases htail with hbreaks | hhead
    · exact hbreaks.goesOn_eq_false fun _ => not_isDigit_of_isBreaking
    · rwa [goesOn, ← hhead]

/-- A numeral that stops before a text stops before every text that agrees with it. -/
theorem Numeral.Stops.of_agrees {n : Numeral} {rest rest' : List Char} (h : n.Stops rest)
    (hagree : Agrees rest rest') : n.Stops rest' := by
  unfold Stops at h ⊢
  split at h
  · obtain ⟨hdigit, hsign⟩ := h
    refine ⟨hagree.goesOn_eq_false (fun _ => not_isDigit_of_isBreaking) hdigit, fun hlen => ?_⟩
    exact hagree.goesOn_eq_false (fun _ => not_isExponentSign_of_isBreaking) (hsign hlen)
  · obtain ⟨hdigit, hletter, hfraction⟩ := h
    refine ⟨hagree.goesOn_eq_false (fun _ => not_isDigit_of_isBreaking) hdigit,
      hagree.goesOn_eq_false (fun _ => not_isExponentLetter_of_isBreaking) hletter, fun hnil => ?_⟩
    exact hagree.fractionOf_eq_nil (hfraction hnil)

/-! ## what ends a symbol -/

/-- A breaking character joins no symbol to a longer one. -/
theorem joinsSymbol_of_isBreaking (preceding : Preceding) (text : List Char) {c : Char}
    (h : isBreaking c = true) : joinsSymbol preceding text c = false := by
  have hequal : c ≠ '=' := ne_of_isBreaking h (by decide) (by decide)
  have hgreater : c ≠ '>' := ne_of_isBreaking h (by decide) (by decide)
  have hstar : c ≠ '*' := ne_of_isBreaking h (by decide) (by decide)
  have hdigit := not_isDigit_of_isBreaking h
  unfold joinsSymbol
  split <;> simp [hequal, hgreater, hstar, hdigit]

/-! ## tokens -/

/-- A word ends, so what is behind it may change. -/
theorem not_takesRest_ofWord {c : Char} {cs : List Char} (first : isWordStart c = true) :
    ¬ (Reading.ofWord (c :: cs)).TakesRest := by
  have hquote : c ≠ '\'' := by
    rintro rfl
    exact absurd first (by decide)
  simp [Reading.TakesRest, Reading.ofWord, hquote]

theorem not_takesRest_ofNumeral {preceding : Preceding} {n : Numeral}
    (form : n.IsFormed preceding) : ¬ (Reading.ofNumeral n).TakesRest := by
  obtain ⟨c, tail, htext, hc⟩ := form.exists_cons
  have hquote : c ≠ '\'' := by
    rintro rfl
    exact absurd hc (by decide)
  cases hcomplete : n.isComplete <;>
    simp [Reading.TakesRest, Reading.ofNumeral, htext, hquote, hcomplete]

theorem not_takesRest_of_mem_symbols {text : List Char} {kind : Kind} {token : Token}
    (fixed : (text, kind) ∈ symbols) : ¬ (Reading.mk text token none).TakesRest := by
  have key : ∀ s ∈ symbols, s.1 ≠ ['\''] := by decide
  simpa [Reading.TakesRest] using key _ fixed

/-- A token that takes the rest of the source leaves nothing of it. -/
theorem Reads.eq_nil_of_takesRest {preceding : Preceding} {r : Reading} {rest : List Char}
    (h : Reads preceding r rest) (htakes : r.TakesRest) : rest = [] := by
  cases h with
  | loneQuote | openString => rfl
  | word first => exact absurd htakes (not_takesRest_ofWord first)
  | number form => exact absurd htakes (not_takesRest_ofNumeral form)
  | symbol fixed => exact absurd htakes (not_takesRest_of_mem_symbols fixed)
  | char | openChar | string | point => simp [Reading.TakesRest] at htakes

/-- A token that does not take the rest of the source is read before any text
that agrees with what follows it. -/
theorem Reads.of_agrees {preceding : Preceding} {r : Reading} {rest rest' : List Char}
    (h : Reads preceding r rest) (hends : ¬ r.TakesRest) (hagree : Agrees rest rest') :
    Reads preceding r rest' := by
  cases h with
  | word first others stops =>
      exact .word first others
        (hagree.goesOn_eq_false (fun _ => not_isWordPart_of_isBreaking) stops)
  | number form stops => exact .number form (stops.of_agrees hagree)
  | char c => exact .char c rest'
  | openChar stops =>
      refine .openChar (hagree.goesOn_eq_false (fun c hc => ?_) stops)
      simpa using ne_of_isBreaking hc (d := '\'') (by decide) (by decide)
  | loneQuote => exact absurd (.inr rfl) hends
  | string plain => exact .string plain
  | openString => exact absurd (.inl rfl) hends
  | symbol fixed stops =>
      exact .symbol fixed
        (hagree.goesOn_eq_false (fun _ => joinsSymbol_of_isBreaking preceding _) stops)
  | point => exact .point rest'

/-- Two characters are all of what follows a token that it is read by. -/
theorem Reads.of_take_two {preceding : Preceding} {r : Reading} {rest rest' : List Char}
    (h : Reads preceding r rest) (hsame : rest'.take 2 = rest.take 2) :
    Reads preceding r rest' := by
  by_cases htakes : r.TakesRest
  · obtain rfl := h.eq_nil_of_takesRest htakes
    have hnil : rest' = [] := by simpa using hsame
    rw [hnil]
    exact h
  · refine h.of_agrees htakes ?_
    match rest, rest' with
    | _, [] => exact .inl breaks_nil
    | [], d :: tail' => simp at hsame
    | c :: tail, d :: tail' =>
        simp only [List.take_succ_cons, List.cons.injEq] at hsame
        obtain ⟨rfl, hsame⟩ := hsame
        refine .inr ⟨d, tail, tail', rfl, rfl, .inr ?_⟩
        simpa [List.take_one] using congrArg List.head? hsame.symm

/-- A token that ends is read in front of every text that breaks. -/
theorem Reads.of_breaks {preceding : Preceding} {r : Reading} {rest rest' : List Char}
    (h : Reads preceding r rest) (hends : ¬ r.TakesRest) (hbreaks : Breaks rest') :
    Reads preceding r rest' :=
  h.of_agrees hends (.inl hbreaks)

end Scan

end PascalTokens
