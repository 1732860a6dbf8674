import PascalTokens.Proofs.Pulls

/-!
# PascalTokens.Proofs.Tiling

A full scan loses nothing of its source.  The regions that it shows are those
of the tokens of the source's layout: none is empty, none overlaps the next,
and the text of each is the lexeme of its token with its quotes.  What lies
outside them are gaps (`pulls_tile_source`).
-/

namespace PascalTokens.Scan

/-- A text that is not empty has bytes. -/
theorem byteLength_pos {cs : List Char} (h : cs ≠ []) : 0 < Text.byteLength cs := by
  cases cs with
  | nil => exact absurd rfl h
  | cons c cs =>
      have := c.utf8Size_pos
      rw [Text.byteLength_cons]
      omega

namespace Layout

/-- The texts of the tokens. -/
def texts (l : Layout) : List (List Char) := l.readings.map Reading.text

/-- The regions of the tokens of a layout that starts at a place. -/
def regions (place : Position) : Layout → List Region
  | ending _ => []
  | token gap r others =>
    let start := place.after (gapText gap)
    let stop := start.after r.text
    .between start stop :: others.regions stop

/-- Whether the gaps of a layout are gaps, and its tokens have texts.  Only the
last gap can end in a comment that is not closed. -/
def IsProper : Layout → Prop
  | ending gap => IsGap gap
  | token gap r others => IsClosedGap gap ∧ r.text ≠ [] ∧ others.IsProper

/-- A layout that the scanner can meet has its open comment, if any, at the end. -/
theorem Stands.isProper {preceding : Preceding} {l : Layout} (h : l.Stands preceding) :
    l.IsProper := by
  induction l generalizing preceding with
  | ending gap => exact h
  | token gap r others ih =>
      obtain ⟨hgap, hread, hothers⟩ := h
      exact ⟨hgap, hread.text_ne_nil, ih hothers⟩

/-- The regions of the pulls of a layout are its regions. -/
theorem map_region_pulls (place : Position) (l : Layout) :
    (l.pulls place).map Pull.region = l.regions place := by
  induction l generalizing place with
  | ending gap => rfl
  | token gap r others ih => rw [pulls, List.map_cons, ih]; rfl

/-- What the pulls show in the source are the texts of the layout. -/
theorem map_written_pulls {preceding : Preceding} {l : Layout} (h : l.Stands preceding)
    (place : Position) : (l.pulls place).map (·.pulled.written) = l.texts := by
  induction l generalizing preceding place with
  | ending gap => rfl
  | token gap r others ih =>
      obtain ⟨-, hread, hothers⟩ := h
      rw [pulls, List.map_cons, ih hothers, hread.written_pulledAt]
      rfl

/-- No token is taken from before the place where a layout starts. -/
theorem offset_le_start {place : Position} {l : Layout} {pull : Pull} (h : pull ∈ l.pulls place) :
    place.offset ≤ pull.region.start := by
  induction l generalizing place with
  | ending gap => simp [pulls] at h
  | token gap r others ih =>
      rcases List.mem_cons.1 h with rfl | h
      · simp [Region.between]
      · have hle := ih h
        simp only [Position.offset_after] at hle
        omega

/-- The tokens of a layout do not overlap. -/
theorem pairwise_pulls (place : Position) (l : Layout) :
    (l.pulls place).Pairwise fun a b => a.region.stop ≤ b.region.start := by
  induction l generalizing place with
  | ending gap => exact List.Pairwise.nil
  | token gap r others ih =>
      refine List.Pairwise.cons (fun pull hpull => ?_) (ih _)
      exact offset_le_start hpull

/-- Every region covers the text of its token, and some text. -/
theorem text?_region_of_mem_pulls {preceding : Preceding} {l : Layout} {place : Position}
    {pull : Pull} (before : List Char) (hstands : l.Stands preceding)
    (hplace : place.offset = Text.byteLength before) (h : pull ∈ l.pulls place) :
    pull.region.start < pull.region.stop ∧
      pull.region.text? (before ++ l.text) = some pull.pulled.written := by
  induction l generalizing preceding place before with
  | ending gap => simp [pulls] at h
  | token gap r others ih =>
      obtain ⟨-, hread, hothers⟩ := hstands
      have hstart : (place.after (gapText gap)).offset =
          Text.byteLength (before ++ gapText gap) := by
        rw [Position.offset_after, hplace, Text.byteLength_append]
      have hsource : before ++ (token gap r others).text =
          before ++ gapText gap ++ r.text ++ others.text := by
        simp [text]
      rw [hsource]
      rcases List.mem_cons.1 h with rfl | h
      · refine ⟨?_, ?_⟩
        · have hpos := byteLength_pos hread.text_ne_nil
          simp only [Region.between, Position.offset_after]
          omega
        · rw [hread.written_pulledAt]
          exact Region.text?_between _ _ _ _ hstart
      · refine ih _ hothers ?_ h
        rw [Position.offset_after, hstart, ← Text.byteLength_append]

end Layout

/-- A full scan tiles its source: the gaps and the token texts of its layout,
one after another, are the source; the regions that are shown are those of the
token texts; and each token text is its token's lexeme, with the quotes that
were read. -/
theorem pulls_tile_source (source : String) (log : DiagnosticLog) :
    let scan := (Scanner.ofSource source log).pulls
    let l := layout source
    l.text = source.toList ∧ l.IsProper ∧
      scan.1.map Pull.region = l.regions {} ∧
      scan.1.map (·.pulled.written) = l.texts ∧
      (∀ pull ∈ scan.1, pull.region.start < pull.region.stop ∧
        pull.region.text? source.toList = some pull.pulled.written) ∧
      scan.1.Pairwise (fun a b => a.region.stop ≤ b.region.start) ∧
      scan.2.unrecognized.toList = l.unrecognized := by
  intro scan l
  have htext : l.text = source.toList := text_layoutAfter .nothing source.toList
  have hstands : l.Stands .nothing := stands_layoutAfter .nothing source.toList
  obtain ⟨hpulls, hunrecognized⟩ :=
    Scanner.pulls_eq (s := .ofSource source log) hstands htext.symm
  have hscan : scan.1 = l.pulls {} := hpulls
  refine ⟨htext, hstands.isProper, ?_, ?_, ?_, ?_, ?_⟩
  · rw [hscan, l.map_region_pulls]
  · rw [hscan, Layout.map_written_pulls hstands]
  · intro pull hpull
    rw [hscan] at hpull
    rw [← htext]
    exact Layout.text?_region_of_mem_pulls [] hstands rfl hpull
  · rw [hscan]
    exact l.pairwise_pulls {}
  · exact hunrecognized.trans (List.nil_append _)

end PascalTokens.Scan
