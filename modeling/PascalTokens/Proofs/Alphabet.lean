import PascalTokens.Grammar.Gap

/-!
# PascalTokens.Proofs.Alphabet

How the character classes of the language lie to one another.  Blanks, the
characters of words and punctuation exclude one another, so the class of its
first character decides what a text is read as.

A *breaking* character is one that can stand right after any token without
becoming a part of it.  Blanks, the `/` of a comment, and the characters that
start nothing and belong to no word are all breaking
(`isBreaking_of_isBlank`, `isBreaking_of_startsNothing`).
-/

namespace PascalTokens

open Unicode

/-! ## tables that exclude one another -/

namespace Unicode.CodeRanges

/-- Whether no code point lies in a range of both tables. -/
def Apart (xs ys : CodeRanges) : Prop := ∀ x ∈ xs, ∀ y ∈ ys, x.2 < y.1 ∨ y.2 < x.1

instance (xs ys : CodeRanges) : Decidable (Apart xs ys) :=
  inferInstanceAs (Decidable (∀ x ∈ xs, ∀ y ∈ ys, x.2 < y.1 ∨ y.2 < x.1))

/-- Ranges are compared as numbers, which is fast on long tables. -/
theorem apart_of_all {xs ys : CodeRanges}
    (h : xs.all (fun x => ys.all fun y => x.2.blt y.1 || y.2.blt x.1) = true) : Apart xs ys := by
  intro x hx y hy
  simpa using List.all_eq_true.1 (List.all_eq_true.1 h x hx) y hy

/-- A code that a table has lies in one of its ranges. -/
theorem exists_mem_of_has {table : CodeRanges} {n : Nat} (h : table.has n = true) :
    ∃ r ∈ table, r.1 ≤ n ∧ n ≤ r.2 := by
  induction table with
  | nil => simp [has] at h
  | cons r table ih =>
      obtain ⟨first, last⟩ := r
      by_cases hn : n < first
      · simp [has, hn] at h
      · simp only [has, hn, if_false, Bool.or_eq_true, decide_eq_true_eq] at h
        rcases h with hle | h
        · exact ⟨(first, last), List.mem_cons_self, by omega, hle⟩
        · obtain ⟨s, hs, hbounds⟩ := ih h
          exact ⟨s, List.mem_cons_of_mem _ hs, hbounds⟩

/-- A code point in a range of one table is not found in a table apart from it. -/
theorem Apart.has_eq_false {xs ys : CodeRanges} {n : Nat} (h : Apart xs ys)
    (hn : ∃ x ∈ xs, x.1 ≤ n ∧ n ≤ x.2) : ys.has n = false := by
  rw [Bool.eq_false_iff]
  intro hy
  obtain ⟨x, hx, hxle, hlex⟩ := hn
  obtain ⟨y, hy, hyle, hley⟩ := exists_mem_of_has hy
  have := h x hx y hy
  omega

end Unicode.CodeRanges

/-- The ASCII digits as a table. -/
def digitRanges : CodeRanges := [(0x30, 0x39)]

/-- The blanks as a table: white space and the information separators. -/
def blankRanges : CodeRanges := (0x1C, 0x1F) :: whiteSpaceRanges

/-- The digits lie in the ranges that are listed for them. -/
theorem mem_digitRanges {c : Char} (h : isDigit c = true) :
    ∃ r ∈ digitRanges, r.1 ≤ c.toNat ∧ c.toNat ≤ r.2 := by
  simp only [isDigit, Char.isDigit, Bool.and_eq_true, decide_eq_true_eq] at h
  exact ⟨(0x30, 0x39), List.mem_cons_self, h⟩

/-- The blanks lie in the ranges that are listed for them. -/
theorem mem_blankRanges {c : Char} (h : isBlank c = true) :
    ∃ r ∈ blankRanges, r.1 ≤ c.toNat ∧ c.toNat ≤ r.2 := by
  unfold isBlank at h
  split at h
  · next hsep =>
      simp only [Bool.and_eq_true, decide_eq_true_eq] at hsep
      exact ⟨(0x1C, 0x1F), List.mem_cons_self, hsep⟩
  · split at h
    · simp at h
    · have hspace : whiteSpaceRanges.has c.toNat = true := h
      obtain ⟨r, hr, hbounds⟩ := CodeRanges.exists_mem_of_has hspace
      exact ⟨r, List.mem_cons_of_mem _ hr, hbounds⟩

/-! ## classes that exclude one another -/

/-- No blank goes on with a word. -/
theorem not_isWordPart_of_isBlank {c : Char} (h : isBlank c = true) : isWordPart c = false := by
  have halpha : CodeRanges.Apart blankRanges alphabeticRanges :=
    CodeRanges.apart_of_all (by decide +kernel)
  have hnum : CodeRanges.Apart blankRanges numericRanges :=
    CodeRanges.apart_of_all (by decide +kernel)
  rw [isWordPart, isAlphabetic, isNumeric, halpha.has_eq_false (mem_blankRanges h),
    hnum.has_eq_false (mem_blankRanges h)]
  rfl

/-- No character of a word is a blank. -/
theorem not_isBlank_of_isWordPart {c : Char} (h : isWordPart c = true) : isBlank c = false := by
  rw [Bool.eq_false_iff]
  intro hb
  rw [not_isWordPart_of_isBlank hb] at h
  exact Bool.false_ne_true h

/-- No word starts with a digit. -/
theorem not_isWordStart_of_isDigit {c : Char} (h : isDigit c = true) : isWordStart c = false := by
  have halpha : CodeRanges.Apart digitRanges alphabeticRanges :=
    CodeRanges.apart_of_all (by decide +kernel)
  exact halpha.has_eq_false (mem_digitRanges h)

/-- A word may go on with a digit. -/
theorem isWordPart_of_isDigit {c : Char} (h : isDigit c = true) : isWordPart c = true := by
  have hsorted : numericRanges.Sorted := by decide +kernel
  have hnum : isNumeric c = true := by
    rw [isNumeric, CodeRanges.has_iff hsorted]
    obtain ⟨r, hr, hbounds⟩ := mem_digitRanges h
    rw [digitRanges, List.mem_singleton] at hr
    exact ⟨r, by rw [hr]; decide, hbounds⟩
  rw [isWordPart, hnum, Bool.or_true]

theorem not_isWordStart_of_not_isWordPart {c : Char} (h : isWordPart c = false) :
    isWordStart c = false := by
  rw [Bool.eq_false_iff] at h ⊢
  exact fun hs => h (isWordPart_of_isWordStart hs)

theorem not_isDigit_of_not_isWordPart {c : Char} (h : isWordPart c = false) :
    isDigit c = false := by
  rw [Bool.eq_false_iff] at h ⊢
  exact fun hd => h (isWordPart_of_isDigit hd)

/-- Punctuation is neither blank nor a part of a word. -/
theorem not_isBlank_of_mem_punctuation {c : Char} (h : c ∈ punctuation) : isBlank c = false := by
  have key : punctuation.all (!isBlank ·) = true := by decide
  simpa using List.all_eq_true.1 key c h

/-- No punctuation goes on with a word. -/
theorem not_isWordPart_of_mem_punctuation {c : Char} (h : c ∈ punctuation) :
    isWordPart c = false := by
  have key : punctuation.all (!isWordPart ·) = true := by decide
  simpa using List.all_eq_true.1 key c h

/-! ## breaking characters -/

/-- Whether a character ends every token that it stands after. -/
def isBreaking (c : Char) : Bool := !isWordPart c && (c == '/' || !punctuation.contains c)

/-- A blank ends whatever token stands before it. -/
theorem isBreaking_of_isBlank {c : Char} (h : isBlank c = true) : isBreaking c = true := by
  have hpunct : c ∉ punctuation := by
    intro hm
    rw [not_isBlank_of_mem_punctuation hm] at h
    exact Bool.false_ne_true h
  simp [isBreaking, not_isWordPart_of_isBlank h, hpunct]

/-- A character that starts nothing ends every token, unless a word goes on with it. -/
theorem isBreaking_of_startsNothing {c : Char} (h : startsNothing c = true)
    (hw : isWordPart c = false) : isBreaking c = true := by
  simp only [startsNothing, Bool.and_eq_true, Bool.not_eq_true'] at h
  rw [isBreaking, hw, h.2]
  simp

theorem isBreaking_slash : isBreaking '/' = true := by decide

end PascalTokens
