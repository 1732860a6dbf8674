import PascalTokens.Proofs.Layout

/-!
# PascalTokens.Proofs.Pulls

What pulling a scanner does, told by the layout of what is ahead of it.  One
pull passes over the first gap and takes the token after it (`pull_token`), or
finds the end of the source (`pull_ending`).  A full scan by pulls takes the
tokens of the layout one after another, each in its region (`pulls_eq`).
-/

namespace PascalTokens.Scan

/-- What one pull of a full scan gives: a token, or an incomplete literal, and
the region that the scanner shows for it. -/
structure Pull where
  pulled : Pulled
  region : Region

namespace Pulled

/-- What is wrong with a token, if it is incomplete. -/
def fault? : Pulled → Option Fault
  | .ok _ => none
  | .error i => some i.fault

/-- The text that a token was read from, made of its lexeme. -/
def written : Pulled → List Char
  | .ok ⟨.charLiteral, lexeme⟩ => '\'' :: lexeme.toList ++ ['\'']
  | .ok ⟨.stringLiteral, lexeme⟩ => '"' :: lexeme.toList ++ ['"']
  | .ok ⟨_, lexeme⟩ => lexeme.toList
  | .error ⟨token, .openString, _⟩ => '"' :: token.lexeme.toList
  | .error ⟨token, _, _⟩ => token.lexeme.toList

end Pulled

/-- What a pull gives for a token that was read at a place. -/
def Reading.pulledAt (r : Reading) (place : Position) : Pulled :=
  match r.fault with
  | none => .ok r.token
  | some fault => .error ⟨r.token, fault, .between place (place.after r.text)⟩

@[simp] theorem Reading.token_pulledAt (r : Reading) (place : Position) :
    (r.pulledAt place).token = r.token := by
  unfold pulledAt
  split <;> rfl

@[simp] theorem Reading.fault?_pulledAt (r : Reading) (place : Position) :
    (r.pulledAt place).fault? = r.fault := by
  unfold pulledAt
  split
  · next h => rw [h]; rfl
  · next h => rw [h]; rfl

/-- A reading is pulled as a token exactly if nothing is wrong with it. -/
theorem Reading.pulledAt_eq_ok_iff {r : Reading} {place : Position} {token : Token} :
    r.pulledAt place = .ok token ↔ r.fault = none ∧ r.token = token := by
  unfold pulledAt
  split
  · next h => simp [h]
  · next h => simp [h]

/-- The text of a token is made of its lexeme. -/
theorem Reads.written_pulledAt {preceding : Preceding} {r : Reading} {rest : List Char}
    (h : Reads preceding r rest) (place : Position) : (r.pulledAt place).written = r.text := by
  cases h with
  | word =>
      simp only [Reading.pulledAt, Reading.ofWord, Kind.ofWord]
      split <;> simp [Pulled.written]
  | @number n =>
      simp only [Reading.pulledAt, Reading.ofNumeral]
      cases n.isComplete <;> cases n.isReal <;> simp [Pulled.written]
  | char | openChar | loneQuote | string | openString => simp [Reading.pulledAt, Pulled.written]
  | @symbol text _ kind fixed =>
      have key : ∀ s ∈ symbols, s.2 ≠ .charLiteral ∧ s.2 ≠ .stringLiteral := by decide
      obtain ⟨hchar, hstring⟩ := key _ fixed
      simp only [Reading.pulledAt]
      cases kind <;> simp_all [Pulled.written]
  | point =>
      simp only [Reading.pulledAt]
      split <;> simp [Pulled.written]

namespace Scanner

/-! ## one pull -/

/-- Passes over the pieces of a gap. -/
def skipAll (s : Scanner) (gap : List Skipped) : Scanner := gap.foldl skip s

@[simp] theorem skipAll_nil (s : Scanner) : s.skipAll [] = s := rfl

@[simp] theorem skipAll_cons (s : Scanner) (k : Skipped) (gap : List Skipped) :
    s.skipAll (k :: gap) = (s.skip k).skipAll gap := rfl

@[simp] theorem preceding_skip (s : Scanner) (k : Skipped) :
    (s.skip k).preceding = s.preceding := by
  cases k <;> rfl

/-- Skipping moves the cursor over the text of the item. -/
theorem reader_skip (s : Scanner) (k : Skipped) :
    (s.skip k).reader = s.reader.advanceBy k.text.length := by
  cases k <;> rfl

/-- Taking moves the cursor over the text of the token. -/
theorem reader_take (s : Scanner) (r : Reading) :
    (s.take r).2.reader = s.reader.advanceBy r.text.length := by
  unfold take
  split <;> rfl

/-- Skipping a gap keeps the lookback. -/
theorem preceding_skipAll (s : Scanner) (gap : List Skipped) :
    (s.skipAll gap).preceding = s.preceding := by
  induction gap generalizing s with
  | nil => rfl
  | cons k gap ih => rw [skipAll_cons, ih, preceding_skip]

/-- Behind a gap the cursor has the gap behind it and the rest ahead. -/
theorem reader_skipAll {s : Scanner} {gap : List Skipped} {rest : List Char}
    (h : s.reader.ahead = gapText gap ++ rest) :
    (s.skipAll gap).reader =
      ⟨(gapText gap).reverse ++ s.reader.behind, rest, s.position.after (gapText gap)⟩ := by
  induction gap generalizing s with
  | nil => rw [skipAll_nil, ← show s.reader.ahead = rest from h]; rfl
  | cons k gap ih =>
      rw [gapText_cons, List.append_assoc] at h
      have hskip := reader_skip s k
      rw [s.reader.advanceBy_length k.text _ h] at hskip
      have hahead : (s.skip k).reader.ahead = gapText gap ++ rest := by rw [hskip]
      rw [skipAll_cons, ih hahead, position, hskip]
      simp [position]

/-- Skipping a gap records its unrecognized characters. -/
theorem unrecognized_skipAll (s : Scanner) (gap : List Skipped) :
    (s.skipAll gap).unrecognized.toList = s.unrecognized.toList ++ gapUnrecognized gap := by
  induction gap generalizing s with
  | nil => simp [gapUnrecognized]
  | cons k gap ih =>
      rw [skipAll_cons, ih, gapUnrecognized_cons]
      cases k <;> simp [skip, tell, report, moveOver, Skipped.unrecognized?]

/-- A pull passes over the gap that it starts at. -/
theorem pull_skipAll {s : Scanner} {gap : List Skipped} {rest : List Char}
    (hgap : GapStands rest gap) (h : s.reader.ahead = gapText gap ++ rest) :
    s.pull = (s.skipAll gap).pull := by
  induction gap generalizing s with
  | nil => rfl
  | cons k gap ih =>
      obtain ⟨hk, hopen, hgap⟩ := hgap
      rw [gapText_cons, List.append_assoc] at h
      have hnext : Item.next? s.preceding s.reader.ahead = some (.skipped k) :=
        Item.next?_eq_some_iff.2 ⟨gapText gap ++ rest, h, hk, hopen⟩
      have hahead : (s.skip k).reader.ahead = gapText gap ++ rest := by
        rw [ahead_skip, h, List.drop_left]
      rw [pull_of_skipped hnext, skipAll_cons, ih hgap hahead]

/-- A pull at the last gap finds the end of the source. -/
theorem pull_ending {s : Scanner} {gap : List Skipped} (hgap : IsGap gap)
    (h : s.reader.ahead = gapText gap) : s.pull = (none, (s.skipAll gap).finish) := by
  have h : s.reader.ahead = gapText gap ++ [] := by rw [h, List.append_nil]
  have hahead : (s.skipAll gap).reader.ahead = [] := by rw [reader_skipAll h]
  rw [pull_skipAll hgap.stands h, pull_of_none]
  rw [hahead]
  rfl

/-- A pull passes over a gap and takes the token after it. -/
theorem pull_token {s : Scanner} {gap : List Skipped} {r : Reading} {rest : List Char}
    (hgap : IsClosedGap gap) (hread : Reads s.preceding r rest)
    (h : s.reader.ahead = gapText gap ++ (r.text ++ rest)) :
    s.pull = (some ((s.skipAll gap).take r).1, ((s.skipAll gap).take r).2) := by
  have hahead : (s.skipAll gap).reader.ahead = r.text ++ rest := by rw [reader_skipAll h]
  rw [pull_skipAll (hgap.stands _) h, pull_of_token]
  rw [hahead, preceding_skipAll]
  exact Item.next?_eq_some_iff.2 ⟨rest, rfl, hread⟩

/-- Every pull is one of these. -/
theorem pull_cases (s : Scanner) :
    (∃ gap, IsGap gap ∧ s.reader.ahead = gapText gap ∧
      s.pull = (none, (s.skipAll gap).finish)) ∨
    ∃ gap r rest, IsClosedGap gap ∧ Reads s.preceding r rest ∧
      s.reader.ahead = gapText gap ++ (r.text ++ rest) ∧
      s.pull = (some ((s.skipAll gap).take r).1, ((s.skipAll gap).take r).2) := by
  have htext := text_layoutAfter s.preceding s.reader.ahead
  have hstands := stands_layoutAfter s.preceding s.reader.ahead
  cases hl : layoutAfter s.preceding s.reader.ahead with
  | ending gap =>
      rw [hl] at htext hstands
      exact .inl ⟨gap, hstands, htext.symm, pull_ending hstands htext.symm⟩
  | token gap r others =>
      rw [hl] at htext hstands
      obtain ⟨hgap, hread, -⟩ := hstands
      exact .inr ⟨gap, r, others.text, hgap, hread, htext.symm, pull_token hgap hread htext.symm⟩

/-! ## a token that is taken -/

variable {s : Scanner} {r : Reading}

/-- A token that is ahead is pulled at the place where the scanner stands. -/
theorem take_fst (s : Scanner) (r : Reading) {rest : List Char}
    (h : s.reader.ahead = r.text ++ rest) : (s.take r).1 = r.pulledAt s.position := by
  have hreader := s.reader.advanceBy_length r.text rest h
  cases hf : r.fault with
  | none => simp [take, Reading.pulledAt, hf]
  | some fault => simp [take, Reading.pulledAt, hf, moveOver, region, position, hreader]

/-- Behind a token the cursor has the token behind it and the rest ahead. -/
theorem reader_take_of_ahead {rest : List Char} (h : s.reader.ahead = r.text ++ rest) :
    (s.take r).2.reader = ⟨r.text.reverse ++ s.reader.behind, rest, s.position.after r.text⟩ := by
  rw [reader_take, s.reader.advanceBy_length r.text rest h]
  rfl

/-- The token starts where the scanner stood. -/
theorem itemStart_take (s : Scanner) (r : Reading) : (s.take r).2.itemStart = s.position := by
  unfold take
  split <;> rfl

/-- The token taken becomes the lookback. -/
theorem preceding_take (s : Scanner) (r : Reading) :
    (s.take r).2.preceding = .ofToken r.token := by
  unfold take
  split <;> rfl

/-- Taking a token records no character. -/
theorem unrecognized_take (s : Scanner) (r : Reading) :
    (s.take r).2.unrecognized = s.unrecognized := by
  unfold take
  split <;> rfl

/-! ## a full scan by pulls -/

/-- Pulls until there is nothing more to get.  Gives all that was pulled, and
the scanner at the end of the source. -/
def pulls (s : Scanner) : List Pull × Scanner :=
  match _h : s.pull with
  | (none, s) => ([], s)
  | (some pulled, s) =>
    let (others, final) := s.pulls
    (⟨pulled, s.region⟩ :: others, final)
termination_by s.reader.ahead.length
decreasing_by exact length_ahead_pull_lt _h

/-- Without a token the run ends. -/
theorem pulls_of_pull_none {s' : Scanner} (h : s.pull = (none, s')) : s.pulls = ([], s') := by
  rw [pulls]
  split
  · next heq => rw [h] at heq; simp at heq; rw [heq]
  · next heq => rw [h] at heq; simp at heq

/-- A run is the first pull, with its region, and the run behind it. -/
theorem pulls_of_pull_some {s' : Scanner} {pulled : Pulled} (h : s.pull = (some pulled, s')) :
    s.pulls = (⟨pulled, s'.region⟩ :: s'.pulls.1, s'.pulls.2) := by
  rw [pulls]
  split
  · next heq => rw [h] at heq; simp at heq
  · next heq => rw [h] at heq; simp at heq; rw [heq.1, heq.2]

end Scanner

/-- What a full scan of a layout gives from a place on. -/
def Layout.pulls (place : Position) : Layout → List Pull
  | ending _ => []
  | token gap r others =>
    let start := place.after (gapText gap)
    let stop := start.after r.text
    ⟨r.pulledAt start, .between start stop⟩ :: others.pulls stop

/-- A full scan takes the tokens of the layout of what is ahead, and records
the characters that start none. -/
theorem Scanner.pulls_eq {s : Scanner} {l : Layout} (hstands : l.Stands s.preceding)
    (h : s.reader.ahead = l.text) :
    s.pulls.1 = l.pulls s.position ∧
      s.pulls.2.unrecognized.toList = s.unrecognized.toList ++ l.unrecognized := by
  induction l generalizing s with
  | ending gap =>
      rw [pulls_of_pull_none (pull_ending hstands h)]
      exact ⟨rfl, by simp [finish, unrecognized_skipAll, Layout.unrecognized, Layout.gaps]⟩
  | token gap r others ih =>
      obtain ⟨hgap, hread, hothers⟩ := hstands
      have hpull := pull_token hgap hread h
      have hskip := reader_skipAll h
      have hahead : (s.skipAll gap).reader.ahead = r.text ++ others.text := by rw [hskip]
      have hplace : (s.skipAll gap).position = s.position.after (gapText gap) := by
        rw [position, hskip]
      have htake := reader_take_of_ahead hahead
      have hstop : ((s.skipAll gap).take r).2.position =
          (s.position.after (gapText gap)).after r.text := by
        rw [position, htake, hplace]
      obtain ⟨hpulls, hunrecognized⟩ :=
        ih (s := ((s.skipAll gap).take r).2) (by rw [preceding_take]; exact hothers) (by rw [htake])
      rw [pulls_of_pull_some hpull, Layout.pulls]
      constructor
      · rw [hpulls, take_fst _ _ hahead, region, itemStart_take, hplace, hstop]
      · rw [hunrecognized, unrecognized_take, unrecognized_skipAll]
        simp [Layout.unrecognized, Layout.gaps]

/-- A full scan by pulls follows the layout of the source. -/
theorem Scanner.pulls_ofSource (source : String) (log : DiagnosticLog) :
    (ofSource source log).pulls.1 = (layout source).pulls {} ∧
      (ofSource source log).pulls.2.unrecognized.toList = (layout source).unrecognized :=
  pulls_eq (s := .ofSource source log) (stands_layoutAfter .nothing source.toList)
    (text_layoutAfter .nothing source.toList).symm

end PascalTokens.Scan
