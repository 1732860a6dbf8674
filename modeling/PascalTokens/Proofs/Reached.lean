import PascalTokens.Proofs.Pulls
import PascalTokens.Proofs.Reader

/-!
# PascalTokens.Proofs.Reached

The scanners that a run on a source can reach: by pulls of both kinds and by
clearing the record of skipped characters, in any order.  The main statement is
`Reached.standsIn`: however a scanner was reached, what is behind it and what is
ahead of it are its source, and it stands at the place between the two.
-/

namespace PascalTokens.Scan.Scanner

/-- The scanners that are reached on a source. -/
inductive Reached (source : String) : Scanner → Prop
  | start (log : DiagnosticLog) : Reached source (.ofSource source log)
  | pull {s : Scanner} (before : Reached source s) : Reached source s.pull.2
  | next {s : Scanner} (before : Reached source s) : Reached source s.next.2
  | clear {s : Scanner} (before : Reached source s) : Reached source s.clearUnrecognized

/-- Whether a scanner stands in a source, at the place that it says. -/
structure StandsIn (source : List Char) (s : Scanner) : Prop where
  text : s.reader.source = source
  place : s.position = Position.after {} s.reader.behind.reverse

variable {source : List Char} {s s' : Scanner}

/-- A scanner stands where its reader does. -/
theorem StandsIn.reader (h : s.StandsIn source) : s.reader.StandsIn source := ⟨h.text, h.place⟩

theorem StandsIn.of_reader {r : Reader} (heq : s.reader = r) (h : r.StandsIn source) :
    s.StandsIn source := by
  subst heq
  exact ⟨h.text, h.place⟩

theorem StandsIn.of_reader_eq (h : s.StandsIn source) (heq : s'.reader = s.reader) :
    s'.StandsIn source := by
  constructor
  · rw [heq, h.text]
  · rw [position, heq, ← position, h.place]

/-- Reading some of what is ahead leads to a place in the same source. -/
theorem StandsIn.of_read {text rest : List Char} (h : s.StandsIn source)
    (hahead : s.reader.ahead = text ++ rest)
    (hread : s'.reader = ⟨text.reverse ++ s.reader.behind, rest, s.position.after text⟩) :
    s'.StandsIn source := by
  constructor
  · rw [← h.text, hread]
    simp [Reader.source, hahead]
  · rw [position, hread, h.place]
    simp

/-- Skipping a gap that is ahead keeps the source. -/
theorem StandsIn.skipAll {gap : List Skipped} {rest : List Char} (h : s.StandsIn source)
    (hahead : s.reader.ahead = gapText gap ++ rest) : (s.skipAll gap).StandsIn source :=
  h.of_read hahead (reader_skipAll hahead)

/-- A token that is taken is shown in the region of its text. -/
theorem StandsIn.text?_region_take {r : Reading} {rest : List Char} (h : s.StandsIn source)
    (hahead : s.reader.ahead = r.text ++ rest) :
    (s.take r).2.region.text? source = some r.text := by
  have hoffset : s.position.offset = Text.byteLength s.reader.behind.reverse := by
    rw [h.place, Position.offset_after, Nat.zero_add]
  have hsource : source = s.reader.behind.reverse ++ r.text ++ rest := by
    rw [← h.text, Reader.source, hahead, List.append_assoc]
  have hplace : (s.take r).2.position = s.position.after r.text := by
    rw [position, reader_take_of_ahead hahead]
  rw [region, itemStart_take, hplace, hsource]
  exact Region.text?_between _ _ _ _ hoffset

/-- A pull reads some of what is ahead. -/
theorem reader_pull (s : Scanner) :
    ∃ text rest, s.reader.ahead = text ++ rest ∧
      s.pull.2.reader = ⟨text.reverse ++ s.reader.behind, rest, s.position.after text⟩ := by
  obtain ⟨gap, -, hahead, hpull⟩ | ⟨gap, r, rest, -, -, hahead, hpull⟩ := pull_cases s
  · have hgap : s.reader.ahead = gapText gap ++ [] := by rw [hahead, List.append_nil]
    refine ⟨gapText gap, [], hgap, ?_⟩
    rw [hpull, finish, reader_skipAll hgap]
  · have hskip := reader_skipAll hahead
    have hrest : (s.skipAll gap).reader.ahead = r.text ++ rest := by rw [hskip]
    refine ⟨gapText gap ++ r.text, rest, by rw [hahead, List.append_assoc], ?_⟩
    rw [hpull, reader_take_of_ahead hrest, position, hskip]
    simp

/-- A call of `next` moves the cursor as pulling does. -/
theorem reader_next (s : Scanner) : s.next.2.reader = s.pull.2.reader := by
  unfold next
  split
  · next h => rw [h]
  · next h => rw [h]
  · next h => rw [h]; rfl

/-- A new scanner has its whole source ahead. -/
theorem standsIn_ofSource (source : String) (log : DiagnosticLog) :
    (ofSource source log).StandsIn source.toList := ⟨rfl, rfl⟩

/-- Pulling keeps the source. -/
theorem StandsIn.pull (h : s.StandsIn source) : s.pull.2.StandsIn source := by
  obtain ⟨text, rest, hahead, hread⟩ := reader_pull s
  exact h.of_read hahead hread

/-- However a scanner was reached, what is behind and what is ahead make up its source. -/
theorem Reached.standsIn {source : String} (h : s.Reached source) : s.StandsIn source.toList := by
  induction h with
  | start log => exact standsIn_ofSource source log
  | pull _ ih => exact ih.pull
  | next _ ih => exact ih.pull.of_reader_eq (reader_next _)
  | clear _ ih => exact ih.of_reader_eq rfl

end PascalTokens.Scan.Scanner
