import PascalTokens.Scan.Item

/-!
# PascalTokens.Grammar.Gap

What may stand between two tokens: blanks, comments, and characters that start
no token, in any number and order.  A comment that is not closed can only be
the last of it, since it takes the rest of the source.  The main statement is
`isProper_of_next?`: everything that a scan skips has one of these forms.
-/

namespace PascalTokens

/-- The characters that begin a symbol. -/
def symbolStarts : List Char := ['(', ')', ';', ',', '.', ':', '+', '-', '*', '/', '=', '<', '>']

/-- The characters that begin a symbol, a comment or a quoted literal. -/
def punctuation : List Char := symbolStarts ++ ['\'', '"']

/-- Whether a character starts no token, no comment and is no blank. -/
def startsNothing (c : Char) : Bool :=
  !isBlank c && !isWordStart c && !isDigit c && !punctuation.contains c

namespace Scan

/-- The delimiter that closes a comment. -/
def commentEnd : List Char := ['*', '/']

namespace Skipped

/-- Whether a piece between tokens has the form that it is said to have. -/
def IsProper : Skipped → Prop
  | blank c => isBlank c = true
  | comment body => ¬ commentEnd <:+: body
  | openComment body => ¬ commentEnd <:+: body
  | unrecognized c => startsNothing c = true

/-- Whether a piece is a comment that takes the rest of the source. -/
def isOpen : Skipped → Bool
  | openComment _ => true
  | _ => false

end Skipped

/-- Whether pieces can stand between two tokens, or after the last one. -/
def IsGap (pieces : List Skipped) : Prop :=
  (∀ k ∈ pieces, k.IsProper) ∧ ∀ k ∈ pieces.dropLast, k.isOpen = false

/-! ## comments -/

/-- The text that was passed is put before what is still found. -/
theorem commentBody?_go_eq (passed cs : List Char) :
    commentBody?.go passed cs = (commentBody? cs).map (passed.reverse ++ ·) := by
  have key (cs : List Char) : ∀ p q : List Char,
      commentBody?.go (p ++ q) cs = (commentBody?.go p cs).map (q.reverse ++ ·) := by
    intro p
    fun_induction commentBody?.go p cs with
    | case1 => intro q; simp [commentBody?.go]
    | case2 p rest => intro q; simp [commentBody?.go]
    | case3 p c cs hne ih =>
        intro q
        rw [commentBody?.go]
        · exact ih q
        · exact hne
  simpa [commentBody?] using key cs [] passed

/-- A character that does not start the closing delimiter belongs to the body. -/
theorem commentBody?_cons {c : Char} {cs : List Char} (h : ¬ commentEnd <+: c :: cs) :
    commentBody? (c :: cs) = (commentBody? cs).map (c :: ·) := by
  rw [commentBody?, commentBody?.go]
  · rw [commentBody?_go_eq]
    rfl
  · rintro rest ⟨⟩ rfl
    exact h ⟨rest, rfl⟩

/-- The text after a comment's opening delimiter is the comment's body, the
first closing delimiter, and what follows. -/
theorem commentBody?_eq_some {cs body : List Char} (h : commentBody? cs = some body) :
    body ++ commentEnd <+: cs ∧ ¬ commentEnd <:+: body := by
  induction cs generalizing body with
  | nil => simp [commentBody?, commentBody?.go] at h
  | cons c cs ih =>
      by_cases hend : commentEnd <+: c :: cs
      · obtain ⟨rest, hrest⟩ := hend
        rw [← hrest] at h ⊢
        obtain rfl : [] = body := by
          simpa [commentEnd, commentBody?, commentBody?.go] using h
        simp [commentEnd]
      · rw [commentBody?_cons hend] at h
        obtain ⟨body, hb, rfl⟩ := Option.map_eq_some_iff.1 h
        obtain ⟨⟨rest, hrest⟩, hinfix⟩ := ih hb
        refine ⟨⟨rest, by simp [← hrest]⟩, fun hin => ?_⟩
        rcases List.infix_cons_iff.1 hin with hpre | hin
        · exact hend (hpre.trans ⟨commentEnd ++ rest, by simp [← hrest]⟩)
        · exact hinfix hin

/-- A comment is not closed if no closing delimiter follows. -/
theorem commentBody?_eq_none {cs : List Char} (h : commentBody? cs = none) :
    ¬ commentEnd <:+: cs := by
  induction cs with
  | nil => simp [commentEnd]
  | cons c cs ih =>
      by_cases hend : commentEnd <+: c :: cs
      · obtain ⟨rest, hrest⟩ := hend
        rw [← hrest] at h
        simp [commentEnd, commentBody?, commentBody?.go] at h
      · rw [commentBody?_cons hend, Option.map_eq_none_iff] at h
        intro hin
        rcases List.infix_cons_iff.1 hin with hpre | hin
        · exact hend hpre
        · exact ih h hin

/-- What is read as a comment has no closing delimiter inside. -/
theorem readComment_isProper (cs : List Char) : (readComment cs).IsProper := by
  unfold readComment
  split
  · next body h => exact (commentBody?_eq_some h).2
  · next h => exact commentBody?_eq_none h

/-! ## what a scan skips -/

/-- Every character that begins a symbol is one by itself. -/
theorem Reading.symbol?_ne_none_of_mem_symbolStarts {preceding : Preceding} {c : Char}
    {rest : List Char} (h : c ∈ symbolStarts) : Reading.symbol? preceding (c :: rest) ≠ none := by
  intro hnone
  unfold Reading.symbol? at hnone
  split at hnone <;> simp only [reduceCtorEq] at hnone
  simp_all [symbolStarts]

/-- A text that starts with punctuation starts with a token. -/
theorem Reading.read?_ne_none_of_mem_punctuation {preceding : Preceding} {c : Char}
    {rest : List Char} (h : c ∈ punctuation) : Reading.read? preceding (c :: rest) ≠ none := by
  unfold Reading.read?
  simp only
  split
  · simp
  · split
    · simp
    · split
      · simp
      · next hquote =>
        split
        · simp
        · next hdouble =>
          have hc : c ∈ symbolStarts := by simpa [punctuation, hquote, hdouble] using h
          simpa [symbolReading?] using symbol?_ne_none_of_mem_symbolStarts hc

/-- Everything that a scan skips has the form of its piece. -/
theorem isProper_of_next? {preceding : Preceding} {cs : List Char} {k : Skipped}
    (h : Item.next? preceding cs = some (.skipped k)) : k.IsProper := by
  unfold Item.next? at h
  split at h
  · simp at h
  · next c rest =>
    split at h
    · next hb =>
      simp only [Option.some.injEq, Item.skipped.injEq] at h
      subst h
      exact hb
    · next hb =>
      split at h
      · simp only [Option.some.injEq, Item.skipped.injEq] at h
        subst h
        exact readComment_isProper _
      · split at h
        · simp at h
        · next hread =>
          simp only [Option.some.injEq, Item.skipped.injEq] at h
          subst h
          have hpunct : c ∉ punctuation := fun hm =>
            Reading.read?_ne_none_of_mem_punctuation hm hread
          unfold Reading.read? at hread
          simp only at hread
          split at hread
          · simp at hread
          · next hstart =>
            split at hread
            · simp at hread
            · next hnum =>
              have hdigit : isDigit c = false := by
                by_cases hm : c = '-'
                · subst hm; decide
                · unfold Reading.startsNumber at hnum
                  split at hnum <;> simp_all
              simp_all [Skipped.IsProper, startsNothing]

end Scan

end PascalTokens
