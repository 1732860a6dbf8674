import PascalTokens.Proofs.Places

/-!
# PascalTokens.Proofs.Lines

The lines of a text and where they stand in it.  A line stands after some text
that ends in a line feed, or at the start, and before its own ending
(`Text.LineStands`).  The line that is found under the number of a place is the
one on which the place lies: `getElem?_lines_count` finds it after any number of
whole lines, and `firstLine_append` says how it goes on from the text before the
place.
-/

namespace PascalTokens.Text

/-- Whether a line can begin after a text. -/
def BeginsLine (front : List Char) : Prop := front = [] ∨ front.getLast? = some '\n'

/-- Whether a line can end before a text: at the end of the source, or at a line
feed, to which a carriage return right before it belongs. -/
def EndsLine (line back : List Char) : Prop :=
  back = [] ∨ (∃ rest, back = '\n' :: rest ∧ line.getLast? ≠ some '\r') ∨
    ∃ rest, back = '\r' :: '\n' :: rest

/-- Whether a line of a text stands right after a front part of it. -/
structure LineStands (cs front line : List Char) : Prop where
  begins : BeginsLine front
  plain : '\n' ∉ line
  ends : ∃ back, cs = front ++ line ++ back ∧ EndsLine line back

/-! ## the first line -/

theorem inLine_iff {c : Char} : inLine c = true ↔ c ≠ '\n' := by simp [inLine]

theorem lines_nil : lines [] = [] := by rw [lines]; rfl

/-- A text without a line feed is one line. -/
theorem lines_of_not_mem {cs : List Char} (h : '\n' ∉ cs) (hne : cs ≠ []) : lines cs = [cs] := by
  have hall : ∀ c ∈ cs, inLine c = true := fun c hc => inLine_iff.2 fun heq => h (heq ▸ hc)
  have hdrop : cs.dropWhile inLine = [] := by
    have happend : (cs ++ []).dropWhile inLine = List.dropWhile inLine [] :=
      List.dropWhile_append_of_pos hall
    rwa [List.append_nil] at happend
  rw [lines, if_neg hne]
  split
  · rfl
  · next heq => rw [hdrop] at heq; exact absurd heq (List.cons_ne_nil _ _).symm

/-- A line feed ends the line before it. -/
theorem lines_append_cons {line : List Char} (h : '\n' ∉ line) (rest : List Char) :
    lines (line ++ '\n' :: rest) = dropReturn line :: lines rest := by
  have hall : ∀ c ∈ line, inLine c = true := fun c hc => inLine_iff.2 fun heq => h (heq ▸ hc)
  have hdrop : (line ++ '\n' :: rest).dropWhile inLine = '\n' :: rest := by
    rw [List.dropWhile_append_of_pos hall]
    rfl
  have htake : (line ++ '\n' :: rest).takeWhile inLine = line := by
    rw [List.takeWhile_append_of_pos hall]
    simp [inLine]
  rw [lines, if_neg (by simp), htake]
  split
  · next heq => rw [hdrop] at heq; exact absurd heq (List.cons_ne_nil _ _)
  · next heq => rw [hdrop] at heq; rw [(List.cons.inj heq).2]

/-- The first line of a text without a line feed is all of it. -/
theorem firstLine_of_not_mem {cs : List Char} (h : '\n' ∉ cs) : firstLine cs = cs := by
  by_cases hne : cs = []
  · rw [hne, firstLine, lines_nil]
    rfl
  · rw [firstLine, lines_of_not_mem h hne]
    rfl

/-- The first line ends at the first line feed, without a carriage return before it. -/
theorem firstLine_append_cons {line : List Char} (h : '\n' ∉ line) (rest : List Char) :
    firstLine (line ++ '\n' :: rest) = dropReturn line := by
  rw [firstLine, lines_append_cons h]
  rfl

/-- A text has no line feed, or a first one. -/
theorem exists_line (cs : List Char) :
    '\n' ∉ cs ∨ ∃ line rest, '\n' ∉ line ∧ cs = line ++ '\n' :: rest := by
  induction cs with
  | nil => exact .inl List.not_mem_nil
  | cons c cs ih =>
      by_cases hc : c = '\n'
      · exact .inr ⟨[], cs, List.not_mem_nil, by rw [hc]; rfl⟩
      · obtain hnone | ⟨line, rest, hline, rfl⟩ := ih
        · exact .inl (by simp [hnone, Ne.symm hc])
        · exact .inr ⟨c :: line, rest, by simp [hline, Ne.symm hc], rfl⟩

/-- Dropping a carriage return at the end keeps the front of a line. -/
theorem dropReturn_isPrefix (line : List Char) : dropReturn line <+: line := by
  unfold dropReturn
  split
  · exact List.dropLast_prefix line
  · exact List.prefix_rfl

/-- Whether a carriage return is dropped is decided by the end of a line. -/
theorem dropReturn_append (xs : List Char) {ys : List Char} (h : ys ≠ []) :
    dropReturn (xs ++ ys) = xs ++ dropReturn ys := by
  have hlast := List.getLast?_eq_some_getLast h
  unfold dropReturn
  rw [List.getLast?_append, hlast, Option.some_or, List.dropLast_append_of_ne_nil h]
  split <;> rfl

theorem dropReturn_of_not_mem {line : List Char} (h : '\r' ∉ line) : dropReturn line = line := by
  rw [dropReturn, if_neg fun hlast => h (List.mem_of_getLast? hlast)]

/-- Lines that are put one under another are read back. -/
theorem lines_intercalate {words : List (List Char)} (hne : words ≠ [])
    (h : ∀ w ∈ words, '\n' ∉ w ∧ '\r' ∉ w) :
    lines (['\n'].intercalate words ++ ['\n']) = words := by
  induction words with
  | nil => exact absurd rfl hne
  | cons w words ih =>
      obtain ⟨hline, hreturn⟩ := h w List.mem_cons_self
      cases words with
      | nil =>
          have hone : ['\n'].intercalate [w] ++ ['\n'] = w ++ '\n' :: [] := by
            simp [List.intercalate]
          rw [hone, lines_append_cons hline, dropReturn_of_not_mem hreturn, lines_nil]
      | cons v words =>
          have hmore : ['\n'].intercalate (w :: v :: words) ++ ['\n'] =
              w ++ '\n' :: (['\n'].intercalate (v :: words) ++ ['\n']) := by
            simp [List.intercalate]
          rw [hmore, lines_append_cons hline, dropReturn_of_not_mem hreturn,
            ih (List.cons_ne_nil v words) fun u hu => h u (List.mem_cons_of_mem w hu)]

/-- The first line of a text stands at its start. -/
theorem lineStands_firstLine (cs : List Char) : LineStands cs [] (firstLine cs) := by
  obtain hnone | ⟨line, rest, hline, rfl⟩ := exists_line cs
  · rw [firstLine_of_not_mem hnone]
    exact ⟨.inl rfl, hnone, [], by simp, .inl rfl⟩
  · rw [firstLine_append_cons hline]
    refine ⟨.inl rfl, fun h => hline ((dropReturn_isPrefix line).subset h), ?_⟩
    unfold dropReturn
    split
    · next hlast =>
      obtain ⟨init, rfl⟩ := List.getLast?_eq_some_iff.1 hlast
      exact ⟨'\r' :: '\n' :: rest, by simp, .inr (.inr ⟨rest, rfl⟩)⟩
    · next hlast => exact ⟨'\n' :: rest, by simp, .inr (.inl ⟨rest, rfl, hlast⟩)⟩

/-- The first line goes on from text without a line feed, if more of the line
comes after that. -/
theorem firstLine_append {front : List Char} (h : '\n' ∉ front) {c : Char} (hc : c ≠ '\n')
    (rest : List Char) : firstLine (front ++ c :: rest) = front ++ firstLine (c :: rest) := by
  obtain hnone | ⟨line, tail, hline, htail⟩ := exists_line (c :: rest)
  · rw [firstLine_of_not_mem hnone, firstLine_of_not_mem (by simp_all)]
  · have hne : line ≠ [] := by
      rintro rfl
      exact hc (List.cons.inj htail).1
    rw [htail, firstLine_append_cons hline, ← List.append_assoc,
      firstLine_append_cons (by simp [h, hline]), dropReturn_append front hne]

/-- What a line has of a text, the first line of that text has too. -/
theorem min_length_firstLine (text after : List Char) :
    min (firstLine text).length (firstLine (text ++ after)).length =
      min text.length (firstLine (text ++ after)).length := by
  obtain hnone | ⟨line, rest, hline, rfl⟩ := exists_line text
  · rw [firstLine_of_not_mem hnone]
  · have hle := (dropReturn_isPrefix line).length_le
    rw [List.append_assoc, List.cons_append, firstLine_append_cons hline,
      firstLine_append_cons hline, List.length_append]
    omega

/-! ## lines by number -/

/-- After whole lines, the next line is the one under their number. -/
theorem getElem?_lines_count {front rest : List Char} (h : BeginsLine front) (hne : rest ≠ []) :
    (lines (front ++ rest))[front.count '\n']? = some (firstLine rest) := by
  -- Along the front part, with the line that has begun there and its last character in view.
  have key (front : List Char) : ∀ begun : List Char, '\n' ∉ begun → BeginsLine (begun ++ front) →
      (lines (begun ++ front ++ rest))[front.count '\n']? = some (firstLine rest) := by
    induction front with
    | nil =>
        intro begun hbegun hstart
        obtain hnil | hlast := hstart
        · obtain rfl : begun = [] := by simpa using hnil
          obtain hnone | ⟨line, tail, hline, rfl⟩ := exists_line rest
          · rw [firstLine_of_not_mem hnone, List.nil_append, List.nil_append,
              lines_of_not_mem hnone hne]
            rfl
          · rw [firstLine_append_cons hline, List.nil_append, List.nil_append,
              lines_append_cons hline]
            rfl
        · rw [List.append_nil] at hlast
          exact absurd (List.mem_of_getLast? hlast) hbegun
    | cons c front ih =>
        intro begun hbegun hstart
        by_cases hc : c = '\n'
        · subst hc
          have hnext : BeginsLine ([] ++ front) := by
            cases front with
            | nil => exact .inl rfl
            | cons d front => exact .inr (by simpa [BeginsLine] using hstart)
          have hlines := ih [] List.not_mem_nil hnext
          rw [List.append_assoc, List.cons_append, lines_append_cons hbegun,
            List.count_cons_self, List.getElem?_cons_succ]
          exact hlines
        · have hlines := ih (begun ++ [c]) (by simp [hbegun, Ne.symm hc]) (by simpa using hstart)
          rw [List.count_cons_of_ne hc]
          simpa using hlines
  simpa using key front [] List.not_mem_nil (by simpa using h)

/-! ## the line of a place -/

/-- The lines before the line on which a text goes on. -/
def linesBefore (before : List Char) : List Char := (before.reverse.dropWhile inLine).reverse

/-- What a text has of the line on which it goes on. -/
def lineBefore (before : List Char) : List Char := (before.reverse.takeWhile inLine).reverse

/-- A text is the lines before the last one and what it has of that. -/
theorem linesBefore_append_lineBefore (before : List Char) :
    linesBefore before ++ lineBefore before = before := by
  rw [linesBefore, lineBefore, ← List.reverse_append, List.takeWhile_append_dropWhile,
    List.reverse_reverse]

/-- Behind the lines before it a line begins. -/
theorem beginsLine_linesBefore (before : List Char) : BeginsLine (linesBefore before) := by
  have hhead := List.head?_dropWhile_not inLine before.reverse
  rw [BeginsLine, linesBefore, List.getLast?_reverse]
  cases hdrop : before.reverse.dropWhile inLine with
  | nil => exact .inl rfl
  | cons c cs =>
      rw [hdrop] at hhead
      exact .inr (by simpa [inLine] using hhead)

/-- No line ends inside the last one. -/
theorem not_mem_lineBefore (before : List Char) : '\n' ∉ lineBefore before := by
  intro h
  have hall := List.all_takeWhile (p := inLine) (l := before.reverse)
  have hin := List.all_eq_true.1 hall '\n' (List.mem_reverse.1 h)
  exact absurd hin (by decide)

/-- The column is one more than the number of characters before it on its line. -/
theorem columnNumber_eq (before : List Char) :
    columnNumber before = (lineBefore before).length + 1 := by
  rw [columnNumber, lineBefore, List.length_reverse]

/-- The line is one more than the number of line feeds before it. -/
theorem lineNumber_eq (before : List Char) :
    lineNumber before = (linesBefore before).count '\n' + 1 := by
  have hzero := List.count_eq_zero.2 (not_mem_lineBefore before)
  conv => lhs; rw [lineNumber, ← linesBefore_append_lineBefore before, List.count_append, hzero]

/-- The parts of a text around a place and the lines of its front part. -/
theorem append_cons_eq (before : List Char) (c : Char) (rest : List Char) :
    before ++ c :: rest = linesBefore before ++ (lineBefore before ++ c :: rest) := by
  rw [← List.append_assoc, linesBefore_append_lineBefore]

/-- The line of a place is the one under its number. -/
theorem getElem?_lines_place (before : List Char) {c : Char} (hc : c ≠ '\n') (rest : List Char) :
    (lines (before ++ c :: rest))[(linesBefore before).count '\n']? =
      some (lineBefore before ++ firstLine (c :: rest)) := by
  rw [append_cons_eq, getElem?_lines_count (beginsLine_linesBefore before) (by simp),
    firstLine_append (not_mem_lineBefore before) hc]

/-- The line of a place stands after the lines before it. -/
theorem lineStands_place (before : List Char) {c : Char} (hc : c ≠ '\n') (rest : List Char) :
    LineStands (before ++ c :: rest) (linesBefore before)
      (lineBefore before ++ firstLine (c :: rest)) := by
  have hfirst := lineStands_firstLine (lineBefore before ++ c :: rest)
  rw [firstLine_append (not_mem_lineBefore before) hc] at hfirst
  obtain ⟨back, hback, hends⟩ := hfirst.ends
  refine ⟨beginsLine_linesBefore before, hfirst.plain, back, ?_, hends⟩
  rw [append_cons_eq, hback, List.nil_append, ← List.append_assoc]

end PascalTokens.Text
