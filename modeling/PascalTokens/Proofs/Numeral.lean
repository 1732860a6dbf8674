import PascalTokens.Grammar.Spelling
import PascalTokens.Proofs.Alphabet

/-!
# PascalTokens.Proofs.Numeral

Reading a number, told without the reader: which numbers there are
(`Numeral.IsFormed`), and before which texts they end (`Numeral.Stops`).  The
main statements are

* `Numeral.isFormed_readUnsigned`, `Numeral.readUnsigned_sound` — what is read
  is a number, and it ends where the rest of the text begins;
* `Numeral.readUnsigned_text` — every number is read back before a text that ends it;
* `Numeral.length_le_of_integer`, `Numeral.length_le_of_real` — no longer text
  spells a number.
-/

namespace PascalTokens.Scan

/-! ## where a class of characters stops -/

/-- Whether a text goes on with a character of a class. -/
def goesOn (q : Char → Bool) (cs : List Char) : Bool := cs.head?.any q

@[simp] theorem goesOn_nil (q : Char → Bool) : goesOn q [] = false := rfl

@[simp] theorem goesOn_cons (q : Char → Bool) (c : Char) (cs : List Char) :
    goesOn q (c :: cs) = q c := rfl

/-- Behind a run the text does not go on with it. -/
theorem goesOn_dropWhile (q : Char → Bool) (cs : List Char) :
    goesOn q (cs.dropWhile q) = false := by
  induction cs with
  | nil => rfl
  | cons c cs ih =>
      by_cases hc : q c = true
      · rw [List.dropWhile_cons_of_pos hc, ih]
      · rw [List.dropWhile_cons_of_neg hc, goesOn_cons]
        simpa using hc

section

variable {q : Char → Bool} {run rest : List Char}

/-- A run in front of a text that does not go on with it is taken as a whole. -/
theorem takeWhile_append_of_stop (hrun : ∀ c ∈ run, q c = true) (hstop : goesOn q rest = false) :
    (run ++ rest).takeWhile q = run := by
  rw [List.takeWhile_append_of_pos hrun]
  cases rest with
  | nil => simp
  | cons c rest => rw [goesOn_cons] at hstop; simp [hstop]

/-- A run in front of a text that does not go on with it is dropped as a whole. -/
theorem dropWhile_append_of_stop (hrun : ∀ c ∈ run, q c = true) (hstop : goesOn q rest = false) :
    (run ++ rest).dropWhile q = rest := by
  rw [List.dropWhile_append_of_pos hrun]
  cases rest with
  | nil => rfl
  | cons c rest => rw [goesOn_cons] at hstop; simp [hstop]

theorem holds_of_mem_takeWhile {cs : List Char} {c : Char} (h : c ∈ cs.takeWhile q) : q c = true :=
  List.all_eq_true.1 List.all_takeWhile c h

/-- A run of a class at the front of a text is a part of the longest one. -/
theorem length_le_takeWhile {cs : List Char} (hrun : ∀ c ∈ run, q c = true) (hpre : run <+: cs) :
    run.length ≤ (cs.takeWhile q).length := by
  obtain ⟨tail, rfl⟩ := hpre
  rw [List.takeWhile_append_of_pos hrun, List.length_append]
  omega

end

/-! ## exponents -/

/-- The characters that an exponent can start with. -/
def isExponentLetter (c : Char) : Bool := c == 'e' || c == 'E'

/-- The signs that an exponent can have. -/
def isExponentSign (c : Char) : Bool := c == '+' || c == '-'

theorem not_isExponentSign_of_isDigit {c : Char} (h : isDigit c = true) :
    isExponentSign c = false := by
  rw [Bool.eq_false_iff]
  intro hs
  simp only [isExponentSign, Bool.or_eq_true, beq_iff_eq] at hs
  rcases hs with rfl | rfl <;> exact absurd h (by decide)

namespace Exponent

/-- Whether an exponent has a mark and digits; they may be missing. -/
def IsFormed (e : Exponent) : Prop := e.mark ∈ exponentMarks ∧ ∀ d ∈ e.digits, isDigit d = true

/-- Whether an exponent ends before a text.  A letter alone would take a sign. -/
def Stops (e : Exponent) (rest : List Char) : Prop :=
  goesOn isDigit rest = false ∧ (e.text.length = 1 → goesOn isExponentSign rest = false)

theorem length_mark_pos {mark : List Char} (h : mark ∈ exponentMarks) : 0 < mark.length := by
  have key : ∀ mark ∈ exponentMarks, 0 < mark.length := by decide
  exact key mark h

/-- A mark and the digits behind it form an exponent, even if there are none. -/
theorem isFormed_takeWhile {mark tail : List Char} (hmark : mark ∈ exponentMarks) :
    IsFormed ⟨mark, tail.takeWhile isDigit⟩ :=
  ⟨hmark, fun _ hd => holds_of_mem_takeWhile hd⟩

/-- An exponent stops behind its digits, if a sign was taken with the mark. -/
theorem stops_dropWhile {mark tail : List Char} (hmark : mark ∈ exponentMarks)
    (hsign : mark.length = 1 → goesOn isExponentSign tail = false) :
    Stops ⟨mark, tail.takeWhile isDigit⟩ (tail.dropWhile isDigit) := by
  refine ⟨goesOn_dropWhile _ _, fun hlen => ?_⟩
  have hpos := length_mark_pos hmark
  simp only [text, List.length_append] at hlen
  have hnone : tail.takeWhile isDigit = [] := List.length_eq_zero_iff.1 (by omega)
  have hsplit := List.takeWhile_append_dropWhile (p := isDigit) (l := tail)
  rw [hnone, List.nil_append] at hsplit
  rw [hsplit]
  exact hsign (by omega)

/-- A mark and digits of any kind, or nothing, are the text of an exponent or of
none. -/
theorem exists_of_mark {P : List Char → Prop} {x : List Char}
    (h : x = [] ∨ ∃ mark ∈ exponentMarks, ∃ digits, P digits ∧ x = mark ++ digits) :
    ∃ exponent : Option Exponent, (exponent.map text).getD [] = x ∧
      ∀ e, exponent = some e → e.mark ∈ exponentMarks ∧ P e.digits := by
  obtain rfl | ⟨mark, hmark, digits, hdigits, rfl⟩ := h
  · exact ⟨none, rfl, by simp⟩
  · refine ⟨some ⟨mark, digits⟩, rfl, fun e he => ?_⟩
    obtain rfl := Option.some.inj he
    exact ⟨hmark, hdigits⟩

/-- What is read is an exponent, and it ends where the rest of the text begins. -/
theorem sound {cs : List Char} {e : Exponent} (h : read? cs = some e) :
    e.IsFormed ∧ ∃ rest, cs = e.text ++ rest ∧ e.Stops rest := by
  have key (mark tail : List Char) (hmark : mark ∈ exponentMarks)
      (hsign : mark.length = 1 → goesOn isExponentSign tail = false) :
      IsFormed ⟨mark, tail.takeWhile isDigit⟩ ∧ ∃ rest,
        mark ++ tail = text ⟨mark, tail.takeWhile isDigit⟩ ++ rest ∧
          Stops ⟨mark, tail.takeWhile isDigit⟩ rest := by
    refine ⟨isFormed_takeWhile hmark, tail.dropWhile isDigit, ?_, stops_dropWhile hmark hsign⟩
    rw [text, List.append_assoc, List.takeWhile_append_dropWhile]
  unfold read? at h
  split at h
  · simp at h
  · next c cs =>
    split at h
    · next hc =>
      split at h <;> obtain rfl := Option.some.inj h
      · next tail => exact key [c, '+'] tail (by rcases hc with rfl | rfl <;> decide) (by simp)
      · next tail => exact key [c, '-'] tail (by rcases hc with rfl | rfl <;> decide) (by simp)
      · next hplus hminus =>
        refine key [c] cs (by rcases hc with rfl | rfl <;> decide) fun _ => ?_
        cases cs with
        | nil => rfl
        | cons d cs =>
            have hp : d ≠ '+' := fun hd => hplus cs (by rw [hd])
            have hm : d ≠ '-' := fun hd => hminus cs (by rw [hd])
            simp [isExponentSign, hp, hm]
    · simp at h

/-- An exponent is read back before a text that ends it. -/
theorem read?_append {e : Exponent} {rest : List Char} (hform : e.IsFormed) (hstop : e.Stops rest) :
    read? (e.text ++ rest) = some e := by
  obtain ⟨mark, digits⟩ := e
  obtain ⟨hmark, hdigits⟩ := hform
  obtain ⟨hdigit, hsign⟩ := hstop
  have htake : (digits ++ rest).takeWhile isDigit = digits :=
    takeWhile_append_of_stop hdigits hdigit
  -- A mark without a sign is read as such because no sign follows it.
  have halone (c : Char) (hc : c = 'e' ∨ c = 'E')
      (hs : (digits = [] → goesOn isExponentSign rest = false)) :
      read? (c :: (digits ++ rest)) = some ⟨[c], digits⟩ := by
    have hnext : goesOn isExponentSign (digits ++ rest) = false := by
      cases digits with
      | nil => exact hs rfl
      | cons d digits =>
          rw [List.cons_append, goesOn_cons]
          exact not_isExponentSign_of_isDigit (hdigits d List.mem_cons_self)
    unfold read?
    simp only [hc, if_true]
    split
    · next heq => rw [heq] at hnext; simp [isExponentSign] at hnext
    · next heq => rw [heq] at hnext; simp [isExponentSign] at hnext
    · rw [htake]
  simp only [exponentMarks, List.mem_cons, List.not_mem_nil, or_false] at hmark
  rcases hmark with rfl | rfl | rfl | rfl | rfl | rfl
  · exact halone 'e' (.inl rfl) fun h => hsign (by simp [text, h])
  · exact halone 'E' (.inr rfl) fun h => hsign (by simp [text, h])
  all_goals simp [text, read?, htake]

/-- No longer text spells an exponent. -/
theorem length_le {x cs : List Char} (hx : IsExponent x) (hne : x ≠ []) (hpre : x <+: cs) :
    ∃ e, read? cs = some e ∧ x.length ≤ e.text.length := by
  obtain rfl | ⟨mark, hmark, digits, ⟨hnonempty, hdigits⟩, rfl⟩ := hx
  · exact absurd rfl hne
  obtain ⟨tail, rfl⟩ := hpre
  have hsplit : (digits ++ tail).takeWhile isDigit = digits ++ tail.takeWhile isDigit :=
    List.takeWhile_append_of_pos hdigits
  have hsign : mark.length = 1 → goesOn isExponentSign (digits ++ tail) = false := by
    intro _
    cases digits with
    | nil => exact absurd rfl hnonempty
    | cons d digits => exact not_isExponentSign_of_isDigit (hdigits d List.mem_cons_self)
  have hform : IsFormed ⟨mark, (digits ++ tail).takeWhile isDigit⟩ := isFormed_takeWhile hmark
  have hread := read?_append hform (stops_dropWhile hmark hsign)
  rw [text, List.append_assoc, List.takeWhile_append_dropWhile, ← List.append_assoc] at hread
  refine ⟨_, hread, ?_⟩
  simp only [text, hsplit, List.length_append]
  omega

end Exponent

/-! ## exponents and what stands before them -/

theorem not_isDigit_of_isExponentLetter {c : Char} (h : isExponentLetter c = true) :
    isDigit c = false := by
  simp only [isExponentLetter, Bool.or_eq_true, beq_iff_eq] at h
  rcases h with rfl | rfl <;> decide

/-- There is no exponent unless its letter follows. -/
theorem Exponent.read?_eq_none_iff {cs : List Char} :
    read? cs = none ↔ goesOn isExponentLetter cs = false := by
  cases cs with
  | nil => simp [read?]
  | cons c cs =>
      unfold read?
      by_cases hc : c = 'e' ∨ c = 'E'
      · have hletter : isExponentLetter c = true := by rcases hc with rfl | rfl <;> decide
        simp only [hc, if_true, goesOn_cons, hletter]
        split <;> simp
      · have hletter : isExponentLetter c = false := by simpa [isExponentLetter] using hc
        simp [hc, hletter]

/-- An exponent starts with its letter. -/
theorem Exponent.goesOn_text {e : Exponent} (h : e.mark ∈ exponentMarks) (rest : List Char) :
    goesOn isExponentLetter (e.text ++ rest) = true := by
  have key : ∀ mark ∈ exponentMarks, goesOn isExponentLetter mark = true := by decide
  have hmark := key e.mark h
  rw [text, List.append_assoc]
  cases hm : e.mark with
  | nil => rw [hm] at hmark; simp at hmark
  | cons c cs => rw [hm] at hmark; exact hmark

theorem goesOn_isDigit_of_isExponentLetter {cs : List Char}
    (h : goesOn isExponentLetter cs = true) : goesOn isDigit cs = false := by
  cases cs with
  | nil => rfl
  | cons c cs => exact not_isDigit_of_isExponentLetter h

namespace Numeral

/-! ## fractions -/

/-- Before an exponent letter there is no fraction. -/
theorem fractionOf_eq_nil_of_isExponentLetter {cs : List Char}
    (h : goesOn isExponentLetter cs = true) : fractionOf cs = [] := by
  unfold fractionOf
  split
  · simp [isExponentLetter] at h
  · rfl

/-- What is taken for a fraction is one, or nothing. -/
theorem isFraction_fractionOf (cs : List Char) : IsFraction (fractionOf cs) := by
  unfold fractionOf
  split
  · next d cs =>
    split
    · next hd =>
      refine .inr ⟨d :: cs.takeWhile isDigit, ⟨by simp, fun c hc => ?_⟩, rfl⟩
      rcases List.mem_cons.1 hc with rfl | hc
      · exact hd
      · exact holds_of_mem_takeWhile hc
    · exact .inl rfl
  · exact .inl rfl

/-- A fraction that is taken takes all digits. -/
theorem goesOn_drop_fractionOf {cs : List Char} (h : fractionOf cs ≠ []) :
    goesOn isDigit (cs.drop (fractionOf cs).length) = false := by
  unfold fractionOf at h ⊢
  split at h
  · next d cs =>
    split at h
    · next hd =>
      have hdrop : cs.drop (cs.takeWhile isDigit).length = cs.dropWhile isDigit := by
        conv => lhs; arg 2; rw [← List.takeWhile_append_dropWhile (p := isDigit) (l := cs)]
        exact List.drop_left
      simp only [hd, if_true, List.length_cons, List.drop_succ_cons, hdrop]
      exact goesOn_dropWhile _ _
    · exact absurd rfl h
  · exact absurd rfl h

/-- A fraction is taken as a whole where no digit follows it. -/
theorem fractionOf_append {fraction rest : List Char} (hf : IsFraction fraction)
    (hdigit : goesOn isDigit rest = false) (hnone : fraction = [] → fractionOf rest = []) :
    fractionOf (fraction ++ rest) = fraction := by
  obtain rfl | ⟨digits, ⟨hne, hdigits⟩, rfl⟩ := hf
  · exact hnone rfl
  · cases digits with
    | nil => exact absurd rfl hne
    | cons d digits =>
        have hd : isDigit d = true := hdigits d List.mem_cons_self
        have htake : (digits ++ rest).takeWhile isDigit = digits :=
          takeWhile_append_of_stop (fun c hc => hdigits c (List.mem_cons_of_mem _ hc)) hdigit
        simp [fractionOf, hd, htake]

/-- No longer text spells a fraction. -/
theorem length_le_fractionOf {fraction cs : List Char} (hf : IsFraction fraction)
    (hpre : fraction <+: cs) : fraction.length ≤ (fractionOf cs).length := by
  obtain rfl | ⟨digits, ⟨hne, hdigits⟩, rfl⟩ := hf
  · exact Nat.zero_le _
  · obtain ⟨tail, rfl⟩ := hpre
    cases digits with
    | nil => exact absurd rfl hne
    | cons d digits =>
        have hd : isDigit d = true := hdigits d List.mem_cons_self
        have hlen : digits.length ≤ ((digits ++ tail).takeWhile isDigit).length :=
          length_le_takeWhile (fun c hc => hdigits c (List.mem_cons_of_mem _ hc)) ⟨tail, rfl⟩
        simp [fractionOf, hd]
        omega

/-! ## numbers -/

/-- Whether the parts of a number are what they are called.  The digits of its
exponent may be missing. -/
structure IsFormed (preceding : Preceding) (n : Numeral) : Prop where
  sign : IsSign preceding n.sign
  whole : IsDigits n.whole
  fraction : IsFraction n.fraction
  exponent : ∀ e, n.exponent = some e → e.IsFormed

/-- Whether a number ends before a text. -/
def Stops (n : Numeral) (rest : List Char) : Prop :=
  match n.exponent with
  | some e => e.Stops rest
  | none =>
    goesOn isDigit rest = false ∧ goesOn isExponentLetter rest = false ∧
      (n.fraction = [] → fractionOf rest = [])

/-- The text of the exponent, if there is one. -/
def exponentText (n : Numeral) : List Char := (n.exponent.map Exponent.text).getD []

/-- The parts of a numeral, one after the other, are its text. -/
theorem text_eq (n : Numeral) : n.text = n.sign ++ (n.whole ++ (n.fraction ++ n.exponentText)) := by
  simp [text, exponentText]

/-- A number is made of digits and a few other characters. -/
theorem IsFormed.forall_mem_text {p : Char → Bool} {preceding : Preceding} {n : Numeral}
    (form : n.IsFormed preceding) (hdigit : ∀ c, isDigit c = true → p c = true)
    (hmarks : ['+', '-', '.', 'e', 'E'].all p = true) : ∀ c ∈ n.text, p c = true := by
  simp only [List.all_cons, List.all_nil, Bool.and_true, Bool.and_eq_true] at hmarks
  obtain ⟨hplus, hminus, hpoint, hlower, hupper⟩ := hmarks
  rw [text_eq]
  refine List.forall_mem_append.2 ⟨?_, List.forall_mem_append.2
    ⟨fun c hc => hdigit c (form.whole.2 c hc), List.forall_mem_append.2 ⟨?_, ?_⟩⟩⟩
  · obtain hsign | ⟨hsign, -⟩ := form.sign
    · simp [hsign]
    · simp [hsign, hminus]
  · obtain hnone | ⟨digits, hfraction, heq⟩ := form.fraction
    · simp [hnone]
    · rw [heq]
      exact List.forall_mem_cons.2 ⟨hpoint, fun c hc => hdigit c (hfraction.2 c hc)⟩
  · cases he : n.exponent with
    | none => simp [exponentText, he]
    | some e =>
        obtain ⟨hmark, hexponent⟩ := form.exponent e he
        have hmark : ∀ c ∈ e.mark, p c = true := by
          simp only [exponentMarks, List.mem_cons, List.not_mem_nil, or_false] at hmark
          rcases hmark with hmark | hmark | hmark | hmark | hmark | hmark <;>
            simp [hmark, hplus, hminus, hlower, hupper]
        simp only [exponentText, he, Option.map_some, Option.getD_some, Exponent.text]
        exact List.forall_mem_append.2 ⟨hmark, fun c hc => hdigit c (hexponent c hc)⟩

/-- Every number ends where the source does. -/
theorem stops_nil (n : Numeral) : n.Stops [] := by
  unfold Stops
  split
  · exact ⟨rfl, fun _ => rfl⟩
  · exact ⟨rfl, rfl, fun _ => rfl⟩

/-- A numeral is real if it has a fraction or an exponent. -/
theorem IsFormed.isReal_iff {preceding : Preceding} {n : Numeral} (form : n.IsFormed preceding) :
    n.isReal = true ↔ n.fraction ≠ [] ∨ n.exponentText ≠ [] := by
  cases he : n.exponent with
  | none => simp [isReal, exponentText, he]
  | some e =>
      have hne : e.text ≠ [] := by
        have hpos := Exponent.length_mark_pos (form.exponent e he).1
        simp [Exponent.text, List.length_pos_iff.1 hpos]
      simp [isReal, exponentText, he, hne]

/-- A number that is not real is its sign and its digits. -/
theorem IsFormed.text_eq_of_not_isReal {preceding : Preceding} {n : Numeral}
    (form : n.IsFormed preceding) (h : ¬ n.isReal = true) : n.text = n.sign ++ n.whole := by
  have hparts := mt form.isReal_iff.2 h
  rw [not_or, Classical.not_not, Classical.not_not] at hparts
  rw [n.text_eq, hparts.1, hparts.2, List.append_nil, List.append_nil]

/-- Behind the digits before it, no exponent goes on with a digit. -/
theorem goesOn_digit_exponentText {n : Numeral} {rest : List Char}
    (hform : ∀ e, n.exponent = some e → e.IsFormed) (hstop : n.Stops rest) :
    goesOn isDigit (n.exponentText ++ rest) = false := by
  unfold Stops at hstop
  cases he : n.exponent with
  | none => simpa [he, exponentText] using (he ▸ hstop).1
  | some e =>
      rw [exponentText, he]
      exact goesOn_isDigit_of_isExponentLetter (e.goesOn_text (hform e he).1 rest)

/-- Behind the digits before it, no fraction goes on with a digit. -/
theorem goesOn_digit_fraction {fraction rest : List Char} (hf : IsFraction fraction)
    (hdigit : goesOn isDigit rest = false) : goesOn isDigit (fraction ++ rest) = false := by
  obtain rfl | ⟨digits, -, rfl⟩ := hf
  · exact hdigit
  · rfl

/-- The parts of a number are read one after another. -/
theorem readUnsigned_append (sign : List Char) {whole rest : List Char}
    (hwhole : ∀ d ∈ whole, isDigit d = true) (hdigit : goesOn isDigit rest = false) :
    readUnsigned sign (whole ++ rest) =
      ⟨sign, whole, fractionOf rest, Exponent.read? (rest.drop (fractionOf rest).length)⟩ := by
  simp only [readUnsigned, takeWhile_append_of_stop hwhole hdigit,
    dropWhile_append_of_stop hwhole hdigit]

/-- A number is read back before a text that ends it. -/
theorem readUnsigned_text {preceding : Preceding} {n : Numeral} {rest : List Char}
    (hform : n.IsFormed preceding) (hstop : n.Stops rest) :
    readUnsigned n.sign (n.whole ++ (n.fraction ++ (n.exponentText ++ rest))) = n := by
  have hdigit := goesOn_digit_exponentText hform.exponent hstop
  have hexponent : Exponent.read? (n.exponentText ++ rest) = n.exponent := by
    unfold Stops at hstop
    cases he : n.exponent with
    | none =>
        rw [he] at hstop
        rw [exponentText, he]
        exact Exponent.read?_eq_none_iff.2 hstop.2.1
    | some e =>
        rw [he] at hstop
        rw [exponentText, he]
        exact Exponent.read?_append (hform.exponent e he) hstop
  have hfraction : fractionOf (n.fraction ++ (n.exponentText ++ rest)) = n.fraction := by
    refine fractionOf_append hform.fraction hdigit fun hnil => ?_
    unfold Stops at hstop
    cases he : n.exponent with
    | none =>
        rw [he] at hstop
        rw [exponentText, he]
        exact hstop.2.2 hnil
    | some e =>
        rw [exponentText, he]
        exact fractionOf_eq_nil_of_isExponentLetter (e.goesOn_text (hform.exponent e he).1 rest)
  rw [readUnsigned_append n.sign hform.whole.2 (goesOn_digit_fraction hform.fraction hdigit),
    hfraction, List.drop_left, hexponent]

/-- A sign is taken off, and the rest is read as a numeral without one. -/
theorem read_of_isSign {preceding : Preceding} {sign body : List Char}
    (hsign : IsSign preceding sign) (hdigit : goesOn isDigit body = true) :
    read (sign ++ body) = readUnsigned sign body := by
  obtain rfl | ⟨rfl, -⟩ := hsign
  · rw [List.nil_append]
    unfold read
    split
    · exact absurd hdigit (by simp [isDigit, Char.isDigit])
    · rfl
  · rfl

/-- Digits are not empty, so the text goes on with a digit. -/
theorem goesOn_of_isDigits {whole : List Char} (h : IsDigits whole) (rest : List Char) :
    goesOn isDigit (whole ++ rest) = true := by
  obtain ⟨hne, hdigits⟩ := h
  cases whole with
  | nil => exact absurd rfl hne
  | cons d whole => exact hdigits d List.mem_cons_self

/-- What is read is a number. -/
theorem isFormed_readUnsigned {preceding : Preceding} {sign body : List Char}
    (hsign : IsSign preceding sign) (hdigit : goesOn isDigit body = true) :
    (readUnsigned sign body).IsFormed preceding where
  sign := hsign
  whole := by
    refine ⟨?_, fun d hd => holds_of_mem_takeWhile hd⟩
    cases body with
    | nil => simp at hdigit
    | cons d body => rw [goesOn_cons] at hdigit; simp [readUnsigned, hdigit]
  fraction := isFraction_fractionOf _
  exponent := fun _ he => (Exponent.sound he).1

/-- A number that is read ends where the rest of the text begins. -/
theorem readUnsigned_sound (sign body : List Char) :
    ∃ rest, sign ++ body = (readUnsigned sign body).text ++ rest ∧
      (readUnsigned sign body).Stops rest := by
  let afterWhole := body.dropWhile isDigit
  let tail := afterWhole.drop (fractionOf afterWhole).length
  have hwhole : body.takeWhile isDigit ++ afterWhole = body := List.takeWhile_append_dropWhile
  have hfraction : fractionOf afterWhole ++ tail = afterWhole :=
    List.prefix_iff_eq_append.1 (fractionOf_isPrefix afterWhole)
  have hbody : sign ++ body =
      sign ++ (body.takeWhile isDigit ++ (fractionOf afterWhole ++ tail)) := by
    rw [hfraction, hwhole]
  have hexponent : (readUnsigned sign body).exponent = Exponent.read? tail := rfl
  unfold Stops
  rw [text_eq, exponentText, hexponent]
  cases he : Exponent.read? tail with
  | none =>
      refine ⟨tail, by simpa [readUnsigned] using hbody, ?_, Exponent.read?_eq_none_iff.1 he, ?_⟩
      · by_cases hnil : fractionOf afterWhole = []
        · rw [hnil, List.nil_append] at hfraction
          rw [hfraction]
          exact goesOn_dropWhile _ _
        · exact goesOn_drop_fractionOf hnil
      · intro hnil
        have hnil : fractionOf afterWhole = [] := hnil
        rw [hnil, List.nil_append] at hfraction
        rw [hfraction, hnil]
  | some e =>
      obtain ⟨-, rest, hrest, hstop⟩ := Exponent.sound he
      refine ⟨rest, ?_, hstop⟩
      rw [hbody, hrest]
      simp [readUnsigned, afterWhole]

/-! ## no longer text spells a number -/

theorem length_text (n : Numeral) :
    n.text.length =
      n.sign.length + (n.whole.length + (n.fraction.length + n.exponentText.length)) := by
  simp [text_eq]

/-- At least the digits that spell an integer are taken. -/
theorem length_le_of_integer (sign : List Char) {whole body : List Char}
    (hwhole : ∀ d ∈ whole, isDigit d = true) (hpre : whole <+: body) :
    (sign ++ whole).length ≤ (readUnsigned sign body).text.length := by
  have hle := length_le_takeWhile hwhole hpre
  rw [length_text, List.length_append]
  simp only [readUnsigned]
  omega

/-- At least the parts that spell a real number are taken. -/
theorem length_le_of_real (sign : List Char) {whole fraction exponent body : List Char}
    (hwhole : ∀ d ∈ whole, isDigit d = true) (hfraction : IsFraction fraction)
    (hexponent : IsExponent exponent) (hreal : fraction ≠ [] ∨ exponent ≠ [])
    (hpre : whole ++ (fraction ++ exponent) <+: body) :
    (sign ++ (whole ++ (fraction ++ exponent))).length ≤ (readUnsigned sign body).text.length := by
  obtain ⟨tail, rfl⟩ := hpre
  simp only [List.append_assoc]
  by_cases hnil : exponent = []
  · -- Without an exponent, the fraction is at most the one that is read.
    subst hnil
    have hne : fraction ≠ [] := by simpa using hreal
    have hdigit : goesOn isDigit (fraction ++ ([] ++ tail)) = false := by
      obtain rfl | ⟨digits, -, rfl⟩ := hfraction
      · exact absurd rfl hne
      · rfl
    have hle := length_le_fractionOf hfraction ⟨[] ++ tail, rfl⟩
    rw [readUnsigned_append sign hwhole hdigit, length_text]
    simp only [List.length_append, List.length_nil]
    omega
  · -- With one, everything before it is read exactly.
    have hletter : goesOn isExponentLetter (exponent ++ tail) = true := by
      obtain rfl | ⟨mark, hmark, digits, -, rfl⟩ := hexponent
      · exact absurd rfl hnil
      · exact Exponent.goesOn_text (e := ⟨mark, digits⟩) hmark tail
    have hdigit := goesOn_isDigit_of_isExponentLetter hletter
    have hread : fractionOf (fraction ++ (exponent ++ tail)) = fraction :=
      fractionOf_append hfraction hdigit fun _ => fractionOf_eq_nil_of_isExponentLetter hletter
    obtain ⟨e, he, hle⟩ := Exponent.length_le hexponent hnil (List.prefix_append exponent tail)
    rw [readUnsigned_append sign hwhole (goesOn_digit_fraction hfraction hdigit), hread,
      List.drop_left, he, length_text]
    simp only [exponentText, Option.map_some, Option.getD_some, List.length_append]
    omega

end Numeral

end PascalTokens.Scan
