import PascalTokens.Toml.Text

/-!
# PascalTokens.Proofs.TomlText

A text that is written as a TOML string is read back, in whichever of the four
ways it is written: `readString?_quoteList`.

Between three quotes, quotes of the text stand for themselves, and some may
stand right before the closing ones, so a reader cannot tell what a quote is
before it has seen what comes after.  The two lemmas about texts on several
lines are therefore proved with the quotes that are still to be told apart put
back in front, at most two of them.
-/

namespace PascalTokens.Toml

/-! ## escapes -/

/-- A character is written as it is, or as an escape that stands for it. -/
theorem escapeChar_cases (c : Char) :
    escapeChar c = [c] ∧ isBasicChar c = true ∨
      ∃ body, escapeChar c = '\\' :: body ∧
        ∀ tail, readEscape? (body ++ tail) = some (c, tail) := by
  have hcode : ∀ n < 128, isControl (Char.ofNat n) = true →
      Text.hexChar? ['0', '0', hexDigit (n / 16), hexDigit n] = some (Char.ofNat n) := by decide
  unfold escapeChar
  split
  · exact .inr ⟨['b'], rfl, fun _ => rfl⟩
  · exact .inr ⟨['t'], rfl, fun _ => rfl⟩
  · exact .inr ⟨['n'], rfl, fun _ => rfl⟩
  · exact .inr ⟨['f'], rfl, fun _ => rfl⟩
  · exact .inr ⟨['r'], rfl, fun _ => rfl⟩
  · exact .inr ⟨['"'], rfl, fun _ => rfl⟩
  · exact .inr ⟨['\\'], rfl, fun _ => rfl⟩
  · next _ _ hnewline _ _ hquote hbackslash =>
    split
    · next hcontrol =>
      have hsmall : c.toNat < 128 := by
        rcases Bool.or_eq_true_iff.1 hcontrol with h | h
        · simp only [Bool.and_eq_true, decide_eq_true_eq] at h
          omega
        · rw [beq_iff_eq.1 h]
          decide
      have hc := hcode c.toNat hsmall (by rwa [Char.ofNat_toNat])
      rw [Char.ofNat_toNat] at hc
      refine .inr ⟨['u', '0', '0', hexDigit (c.toNat / 16), hexDigit c.toNat], rfl, fun tail => ?_⟩
      simp [readEscape?, Text.readHex?, hc]
    · next hcontrol =>
      have hne : c ≠ '\n' ∧ c ≠ '"' ∧ c ≠ '\\' := ⟨hnewline, hquote, hbackslash⟩
      exact .inl ⟨rfl, by simp [isBasicChar, hcontrol, hne]⟩

/-- The plain characters of a basic string need no escape. -/
theorem ne_of_isBasicChar {c : Char} (h : isBasicChar c = true) :
    c ≠ '"' ∧ c ≠ '\\' ∧ c ≠ '\n' ∧ c ≠ '\r' := by
  refine ⟨?_, ?_, ?_, ?_⟩ <;> rintro rfl <;> exact absurd h (by decide)

/-- An escape is not the end of a line that is continued. -/
theorem continuation?_of_readEscape? {cs tail : List Char} {c : Char}
    (h : readEscape? cs = some (c, tail)) : continuation? cs = none := by
  unfold readEscape? at h
  split at h
  case h_10 => simp at h
  all_goals rfl

/-! ## one line -/

/-- An escaped character is read back as itself. -/
theorem readBasic_escapeChar (read : List Char) (c : Char) (tail : List Char) :
    readBasic read (escapeChar c ++ tail) = readBasic (c :: read) tail := by
  obtain ⟨hplain, hbasic⟩ | ⟨body, hescape, hread⟩ := escapeChar_cases c
  · obtain ⟨hquote, hbackslash, -⟩ := ne_of_isBasicChar hbasic
    rw [hplain, List.singleton_append, readBasic]
    · simp [hbasic]
    · exact hquote
    · exact hbackslash
  · rw [hescape, List.cons_append, readBasic]
    split
    · next h =>
      obtain ⟨rfl, rfl⟩ := Prod.mk.inj (Option.some.inj ((hread tail).symm.trans h))
      rfl
    · next h => simp [hread] at h

/-- An escaped text is read back up to its quote. -/
theorem readBasic_flatMap (read cs rest : List Char) :
    readBasic read (cs.flatMap escapeChar ++ '"' :: rest) = some (read.reverse ++ cs, rest) := by
  induction cs generalizing read with
  | nil => simp [readBasic]
  | cons c cs ih =>
      rw [List.flatMap_cons, List.append_assoc, readBasic_escapeChar, ih]
      simp

/-- A literal string is read back up to its quote. -/
theorem readLiteral_append {cs : List Char} (h : ∀ c ∈ cs, isLiteralChar c = true)
    (rest : List Char) : readLiteral (cs ++ '\'' :: rest) = some (cs, rest) := by
  have hstop : isLiteralChar '\'' = false := by decide
  unfold readLiteral
  rw [List.dropWhile_append_of_pos h, List.takeWhile_append_of_pos h]
  simp [hstop]

/-! ## several lines -/

/-- A character other than a quote, as it is written in a basic string of several
lines. -/
def multilineChar (c : Char) : List Char := if c = '\n' then ['\n'] else escapeChar c

/-- Characters other than a quote are written one by one. -/
theorem escapeMultiline_cons {c : Char} (hc : c ≠ '"') (quotes : Nat) (cs : List Char) :
    escapeMultiline quotes (c :: cs) = multilineChar c ++ escapeMultiline 0 cs := by
  unfold multilineChar
  by_cases hnewline : c = '\n'
  · subst hnewline
    rfl
  · rw [escapeMultiline, if_neg hnewline]
    · exact hc
    · exact hnewline

/-- A character of several lines does not start like a quote, and only a line
feed starts like a line ending. -/
theorem exists_multilineChar {c : Char} (hc : c ≠ '"') :
    ∃ d more, multilineChar c = d :: more ∧ d ≠ '"' ∧ (c ≠ '\n' → d ≠ '\n' ∧ d ≠ '\r') := by
  unfold multilineChar
  split
  · next hnewline => exact ⟨'\n', [], rfl, by decide, fun hne => absurd hnewline hne⟩
  · obtain ⟨hplain, hbasic⟩ | ⟨body, hescape, -⟩ := escapeChar_cases c
    · exact ⟨c, [], hplain, hc, fun _ => (ne_of_isBasicChar hbasic).2.2⟩
    · exact ⟨'\\', body, hescape, by decide, fun _ => by decide⟩

/-- An escape in a multi-line string is read as its character. -/
theorem readMultilineBasic_escape (read : List Char) {c : Char} {cs tail : List Char}
    (h : readEscape? cs = some (c, tail)) :
    readMultilineBasic read ('\\' :: cs) = readMultilineBasic (c :: read) tail := by
  rw [readMultilineBasic]
  split
  · next hline => simp [continuation?_of_readEscape? h] at hline
  · split
    · next heq =>
      obtain ⟨rfl, rfl⟩ := Prod.mk.inj (Option.some.inj (h.symm.trans heq))
      rfl
    · next heq => simp [h] at heq

/-- A character of a multi-line string is read back as itself. -/
theorem readMultilineBasic_multilineChar (read : List Char) {c : Char} (hc : c ≠ '"')
    (tail : List Char) :
    readMultilineBasic read (multilineChar c ++ tail) = readMultilineBasic (c :: read) tail := by
  unfold multilineChar
  split
  · next hnewline => subst hnewline; rw [List.singleton_append, readMultilineBasic] <;> simp
  · obtain ⟨hplain, hbasic⟩ | ⟨body, hescape, hread⟩ := escapeChar_cases c
    · obtain ⟨-, hbackslash, -, hreturn⟩ := ne_of_isBasicChar hbasic
      rw [hplain, List.singleton_append, readMultilineBasic] <;>
        simp [hc, hbackslash, hreturn, hbasic]
    · rw [hescape, List.cons_append, readMultilineBasic_escape read (hread tail)]

/-- Up to two quotes before something else are quotes of the text. -/
theorem readMultilineBasic_quotes (read : List Char) {quotes : Nat} (hquotes : quotes ≤ 2)
    {d : Char} (hd : d ≠ '"') (tail : List Char) :
    readMultilineBasic read (List.replicate quotes '"' ++ d :: tail) =
      readMultilineBasic (List.replicate quotes '"' ++ read) (d :: tail) := by
  obtain rfl | rfl | rfl : quotes = 0 ∨ quotes = 1 ∨ quotes = 2 := by omega
  · rfl
  · simp only [List.replicate, List.cons_append, List.nil_append]
    rw [readMultilineBasic] <;> simp [hd]
  · simp only [List.replicate, List.cons_append, List.nil_append]
    rw [readMultilineBasic, readMultilineBasic] <;> simp [hd]

/-- Up to two quotes before the closing ones are quotes of the text. -/
theorem readMultilineBasic_closing (read : List Char) {quotes : Nat} (hquotes : quotes ≤ 2)
    {rest : List Char} (hrest : rest.head? ≠ some '"') :
    readMultilineBasic read (List.replicate quotes '"' ++ (['"', '"', '"'] ++ rest)) =
      some (read.reverse ++ List.replicate quotes '"', rest) := by
  have hquote (cs : List Char) : rest ≠ '"' :: cs := by
    rintro rfl
    exact hrest rfl
  obtain rfl | rfl | rfl : quotes = 0 ∨ quotes = 1 ∨ quotes = 2 := by omega
  · simp only [List.replicate, List.cons_append, List.nil_append]
    rw [readMultilineBasic] <;> simp [hquote]
  · simp only [List.replicate, List.cons_append, List.nil_append]
    rw [readMultilineBasic]
    simp [hquote]
  · simp only [List.replicate, List.cons_append, List.nil_append]
    rw [readMultilineBasic]

/-- A text of several lines is read back.  The quotes that were written last may
still be unread. -/
theorem readMultilineBasic_escapeMultiline (read : List Char) {quotes : Nat} (hquotes : quotes ≤ 2)
    (cs : List Char) {rest : List Char} (hrest : rest.head? ≠ some '"') :
    readMultilineBasic read
        (List.replicate quotes '"' ++ (escapeMultiline quotes cs ++ (['"', '"', '"'] ++ rest))) =
      some (read.reverse ++ (List.replicate quotes '"' ++ cs), rest) := by
  induction cs generalizing read quotes with
  | nil => rw [escapeMultiline, List.nil_append, List.append_nil,
      readMultilineBasic_closing read hquotes hrest]
  | cons c cs ih =>
      by_cases hc : c = '"'
      · subst hc
        by_cases htwo : quotes = 2
        · -- the third quote is an escape, so the two before it can be told apart
          subst htwo
          have hnext := ih ('"' :: (List.replicate 2 '"' ++ read)) (Nat.zero_le 2)
          rw [escapeMultiline, if_pos rfl, List.cons_append, List.cons_append,
            readMultilineBasic_quotes read hquotes (by decide), readMultilineBasic_escape _ rfl]
          rw [List.replicate_zero, List.nil_append] at hnext
          rw [hnext]
          simp
        · have hmore : quotes + 1 ≤ 2 := by omega
          have hnext := ih read hmore
          rw [List.replicate_succ', List.append_assoc, List.append_assoc] at hnext
          rw [escapeMultiline, if_neg htwo]
          exact hnext
      · obtain ⟨d, more, htext, hd, -⟩ := exists_multilineChar hc
        have hnext := ih (c :: (List.replicate quotes '"' ++ read)) (Nat.zero_le 2)
        rw [escapeMultiline_cons hc, htext, List.cons_append, List.cons_append,
          readMultilineBasic_quotes read hquotes hd, ← List.cons_append, ← List.cons_append,
          ← htext, List.append_assoc, readMultilineBasic_multilineChar _ hc]
        rw [List.replicate_zero, List.nil_append] at hnext
        rw [hnext]
        simp

/-- Up to two single quotes before something else are quotes of the text. -/
theorem readMultilineLiteral_quotes (read : List Char) {quotes : Nat} (hquotes : quotes ≤ 2)
    {d : Char} (hd : d ≠ '\'') (tail : List Char) :
    readMultilineLiteral read (List.replicate quotes '\'' ++ d :: tail) =
      readMultilineLiteral (List.replicate quotes '\'' ++ read) (d :: tail) := by
  obtain rfl | rfl | rfl : quotes = 0 ∨ quotes = 1 ∨ quotes = 2 := by omega
  · rfl
  · simp only [List.replicate, List.cons_append, List.nil_append]
    rw [readMultilineLiteral] <;> simp [hd]
  · simp only [List.replicate, List.cons_append, List.nil_append]
    rw [readMultilineLiteral, readMultilineLiteral] <;> simp [hd]

/-- Up to two single quotes before the closing ones are quotes of the text. -/
theorem readMultilineLiteral_closing (read : List Char) {quotes : Nat} (hquotes : quotes ≤ 2)
    {rest : List Char} (hrest : rest.head? ≠ some '\'') :
    readMultilineLiteral read (List.replicate quotes '\'' ++ (['\'', '\'', '\''] ++ rest)) =
      some (read.reverse ++ List.replicate quotes '\'', rest) := by
  have hquote (cs : List Char) : rest ≠ '\'' :: cs := by
    rintro rfl
    exact hrest rfl
  obtain rfl | rfl | rfl : quotes = 0 ∨ quotes = 1 ∨ quotes = 2 := by omega
  · simp only [List.replicate, List.cons_append, List.nil_append]
    rw [readMultilineLiteral] <;> simp [hquote]
  · simp only [List.replicate, List.cons_append, List.nil_append]
    rw [readMultilineLiteral]
    simp [hquote]
  · simp only [List.replicate, List.cons_append, List.nil_append]
    rw [readMultilineLiteral]

/-- The longest run found does not get shorter. -/
theorem le_longestRun_go (c : Char) (longest run : Nat) (cs : List Char) :
    longest ≤ longestRun.go c longest run cs := by
  fun_induction longestRun.go c longest run cs with
  | case1 => exact Nat.le_refl _
  | case2 longest run cs ih => omega
  | case3 longest run d cs _ ih => exact ih

/-- A text of several lines without long runs of single quotes is read back.  The
quotes that were written last may still be unread. -/
theorem readMultilineLiteral_append (read : List Char) {longest quotes : Nat}
    (hquotes : quotes ≤ 2) {cs rest : List Char}
    (hplain : ∀ c ∈ cs, isControl c = false) (hruns : longestRun.go '\'' longest quotes cs ≤ 2)
    (hrest : rest.head? ≠ some '\'') :
    readMultilineLiteral read
        (List.replicate quotes '\'' ++ (cs ++ (['\'', '\'', '\''] ++ rest))) =
      some (read.reverse ++ (List.replicate quotes '\'' ++ cs), rest) := by
  -- A quote is put off, and any other character lets the quotes before it be read.
  induction cs generalizing read quotes longest with
  | nil => rw [List.nil_append, List.append_nil, readMultilineLiteral_closing read hquotes hrest]
  | cons c cs ih =>
      obtain ⟨hc, hcs⟩ := List.forall_mem_cons.1 hplain
      rw [longestRun.go] at hruns
      by_cases hquote : c = '\''
      · subst hquote
        rw [if_pos rfl] at hruns
        have hrun := Nat.le_trans (le_longestRun_go '\'' _ _ _) hruns
        have hmore : quotes + 1 ≤ 2 := by omega
        have hnext := ih read hmore hcs hruns
        rw [List.replicate_succ', List.append_assoc, List.append_assoc] at hnext
        exact hnext
      · rw [if_neg hquote] at hruns
        have hnext := ih (c :: (List.replicate quotes '\'' ++ read)) (Nat.zero_le 2) hcs hruns
        have hreturn : c ≠ '\r' := by
          rintro rfl
          exact absurd hc (by decide)
        have hliteral : c = '\n' ∨ c = '\'' ∨ isLiteralChar c = true := by
          by_cases hnewline : c = '\n'
          · exact .inl hnewline
          · exact .inr (.inr (by simp [isLiteralChar, hc, hnewline, hquote]))
        have hstep (tail : List Char) (read : List Char) :
            readMultilineLiteral read (c :: tail) = readMultilineLiteral (c :: read) tail := by
          rw [readMultilineLiteral, if_pos hliteral] <;> simp [hquote, hreturn]
        rw [List.cons_append, readMultilineLiteral_quotes read hquotes hquote, hstep]
        rw [List.replicate_zero, List.nil_append] at hnext
        rw [hnext]
        simp

/-! ## all styles -/

/-- A character without a run does not occur. -/
theorem longestRun_go_eq_zero {c : Char} {longest run : Nat} {cs : List Char}
    (h : longestRun.go c longest run cs = 0) : c ∉ cs := by
  fun_induction longestRun.go c longest run cs with
  | case1 => exact List.not_mem_nil
  | case2 longest run cs ih =>
      have := le_longestRun_go c (max longest (run + 1)) (run + 1) cs
      omega
  | case3 longest run d cs hd ih => simp [ih h, Ne.symm hd]

/-- A text is written between single quotes if it is plain and has none. -/
theorem isLiteralChar_of_styleOf {cs : List Char} (h : styleOf cs = .literal) :
    cs ≠ [] ∧ ∀ c ∈ cs, isLiteralChar c = true := by
  constructor
  · rintro rfl
    exact absurd h (by decide)
  · unfold styleOf at h
    dsimp only at h
    split at h
    · cases h
    · split at h
      · next hliteral =>
        simp only [Bool.and_eq_true, beq_iff_eq, Bool.not_eq_true'] at hliteral
        obtain ⟨⟨hplain, hsingles⟩, hnewline⟩ := hliteral
        intro c hc
        have hquote : c ≠ '\'' := fun heq => longestRun_go_eq_zero hsingles (heq ▸ hc)
        have hline : c ≠ '\n' := fun heq => by simp [heq ▸ hc] at hnewline
        have hcontrol : isControl c = false := by simpa using List.any_eq_false.1 hplain c hc
        simp [isLiteralChar, hcontrol, hline, hquote]
      · split at h
        · cases h
        · split at h
          · cases h
          · split at h <;> cases h

/-- A text is written between three single quotes if it is plain and has no more
than two in a row. -/
theorem longestRun_of_styleOf {cs : List Char} (h : styleOf cs = .multilineLiteral) :
    cs ≠ [] ∧ (∀ c ∈ cs, isControl c = false) ∧ longestRun '\'' cs ≤ 2 := by
  constructor
  · rintro rfl
    exact absurd h (by decide)
  · unfold styleOf at h
    dsimp only at h
    split at h
    · cases h
    · split at h
      · cases h
      · split at h
        · cases h
        · split at h
          · next hliteral =>
            obtain ⟨hplain, hsingles⟩ := Bool.and_eq_true_iff.1 hliteral
            refine ⟨fun c hc => ?_, of_decide_eq_true hsingles⟩
            simpa using List.any_eq_false.1 (by simpa using hplain) c hc
          · split at h <;> cases h

/-- A line starts only behind a line feed or a carriage return. -/
theorem newline?_eq_none {c : Char} (hnewline : c ≠ '\n') (hreturn : c ≠ '\r') (cs : List Char) :
    newline? (c :: cs) = none := by
  unfold newline?
  split
  · next heq => exact absurd (List.cons.inj heq).1 hnewline
  · next heq => exact absurd (List.cons.inj heq).1 hreturn
  · rfl

/-- The line feed before a text of several lines is dropped, and nothing of the
text is. -/
theorem dropNewline_append {cs body : List Char} (h : '\n' ∉ cs → newline? body = none) :
    dropNewline (leadingNewline cs ++ body) = body := by
  unfold leadingNewline
  split
  · rfl
  · next hnewline => simp [dropNewline, h (by simpa using hnewline)]

/-- No text of one line starts with a double quote. -/
theorem flatMap_escapeChar_ne (cs rest more : List Char) (hrest : rest.head? ≠ some '"') :
    cs.flatMap escapeChar ++ '"' :: rest ≠ '"' :: '"' :: more := by
  intro heq
  cases cs with
  | nil =>
      obtain ⟨-, rfl⟩ := List.cons.inj heq
      exact hrest rfl
  | cons c cs =>
      obtain ⟨hplain, hbasic⟩ | ⟨body, hescape, -⟩ := escapeChar_cases c
      · rw [List.flatMap_cons, hplain] at heq
        exact (ne_of_isBasicChar hbasic).1 (List.cons.inj heq).1
      · rw [List.flatMap_cons, hescape] at heq
        exact absurd (List.cons.inj heq).1 (by decide)

/-- A text of several lines starts with a line ending only if it has one. -/
theorem newline?_escapeMultiline {cs : List Char} (hcs : '\n' ∉ cs) (rest : List Char) :
    newline? (escapeMultiline 0 cs ++ '"' :: rest) = none := by
  cases cs with
  | nil => rfl
  | cons c cs =>
      by_cases hc : c = '"'
      · subst hc
        rfl
      · obtain ⟨d, more, htext, -, hd⟩ := exists_multilineChar hc
        obtain ⟨hnewline, hreturn⟩ := hd fun heq => hcs (heq ▸ List.mem_cons_self)
        rw [escapeMultiline_cons hc, htext]
        exact newline?_eq_none hnewline hreturn _

/-- A text is read as it was written, whatever its style, before anything but a
quote. -/
theorem readString?_quoteList (cs : List Char) {rest : List Char}
    (hdouble : rest.head? ≠ some '"') (hsingle : rest.head? ≠ some '\'') :
    readString? (quoteList cs ++ rest) = some (cs, rest) := by
  unfold quoteList
  cases hstyle : styleOf cs with
  | basic =>
      have hread := readBasic_flatMap [] cs rest
      have hopening (more : List Char) := flatMap_escapeChar_ne cs rest more hdouble
      simp only [List.append_assoc, List.cons_append, List.nil_append]
      rw [readString?]
      · exact hread
      · exact hopening
  | literal =>
      obtain ⟨hne, hliteral⟩ := isLiteralChar_of_styleOf hstyle
      simp only [List.append_assoc, List.cons_append, List.nil_append]
      rw [readString?]
      · exact readLiteral_append hliteral rest
      -- A literal text has no quote, so the opening quote is not the first of three.
      · intro more heq
        cases cs with
        | nil => exact hne rfl
        | cons c cs =>
            obtain ⟨rfl, -⟩ := List.cons.inj heq
            exact absurd (hliteral _ List.mem_cons_self) (by decide)
  | multilineBasic =>
      have hread := readMultilineBasic_escapeMultiline [] (Nat.zero_le 2) cs hdouble
      have hopening := dropNewline_append fun (hcs : '\n' ∉ cs) =>
        newline?_escapeMultiline hcs ('"' :: '"' :: rest)
      simp only [List.append_assoc, List.cons_append, List.nil_append]
      rw [readString?, hopening]
      exact hread
  | multilineLiteral =>
      obtain ⟨hne, hplain, hruns⟩ := longestRun_of_styleOf hstyle
      have hread := readMultilineLiteral_append [] (Nat.zero_le 2) hplain hruns hsingle
      have hopening : dropNewline (leadingNewline cs ++ (cs ++ ['\'', '\'', '\''] ++ rest)) =
          cs ++ ['\'', '\'', '\''] ++ rest := by
        refine dropNewline_append fun hnewline => ?_
        cases cs with
        | nil => exact absurd rfl hne
        | cons c cs =>
            have hcontrol := hplain c List.mem_cons_self
            refine newline?_eq_none ?_ ?_ _
            · rintro rfl
              exact hnewline List.mem_cons_self
            · rintro rfl
              exact absurd hcontrol (by decide)
      simp only [List.append_assoc, List.cons_append, List.nil_append] at hopening ⊢
      rw [readString?, hopening]
      exact hread

end PascalTokens.Toml
