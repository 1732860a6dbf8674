import PascalTokens.Proofs.Interleaving

/-!
# PascalTokens.Proofs.Ending

Every scan comes to an end, and stays there.  A call that gives a token reads at
least one character (`length_ahead_call_lt`), and a call gives none exactly if
only a gap is left (`call_eq_none_iff`).  It leaves the scanner at the end of the
source, where no further call changes anything (`Ended.calls`).  Counting both
over a run, no run gives more tokens than there are characters
(`countP_calls_add_le`).  The main statement is `call_advances_or_ends`.
-/

namespace PascalTokens.Scan

/-- There are no more pieces in a gap than characters. -/
theorem length_le_length_gapText (gap : List Skipped) : gap.length ≤ (gapText gap).length := by
  induction gap with
  | nil => exact Nat.le_refl 0
  | cons k gap ih =>
      have hpos := List.length_pos_iff.2 k.text_ne_nil
      rw [gapText_cons, List.length_append, List.length_cons]
      omega

namespace Scanner

variable {s : Scanner} {c : Call}

/-! ## a call that gives nothing -/

/-- A call gives nothing exactly if what is left is a gap. -/
theorem call_eq_none_iff :
    (s.call c).1 = none ↔ ∃ gap, IsGap gap ∧ s.reader.ahead = gapText gap := by
  constructor
  · intro h
    obtain ⟨gap, hgap, hahead, -⟩ | ⟨gap, r, rest, hgap, hread, hahead, -⟩ := pull_cases s
    · exact ⟨gap, hgap, hahead⟩
    · have htoken := (call_token hgap hread hahead c).1
      rw [h] at htoken
      exact absurd htoken (Option.some_ne_none _).symm
  · rintro ⟨gap, hgap, hahead⟩
    rw [call_ending hgap hahead]

/-- A call passes over no more pieces than there are characters, until it finds the
end or takes a token. -/
theorem exists_gap_of_call (s : Scanner) (c : Call) :
    ∃ gap, IsGap gap ∧ gap.length ≤ s.reader.ahead.length ∧
      (s.call c = (none, (s.skipAll gap).finish) ∨
        ∃ r, (s.call c).1.map Pulled.token = some r.token ∧
          (s.call c).2 = (s.skipAll gap).takeBy r c) := by
  obtain ⟨gap, hgap, hahead, -⟩ | ⟨gap, r, rest, hgap, hread, hahead, -⟩ := pull_cases s
  · refine ⟨gap, hgap, ?_, .inl (call_ending hgap hahead c)⟩
    rw [hahead]
    exact length_le_length_gapText gap
  · refine ⟨gap, hgap.isGap, ?_, .inr ⟨r, call_token hgap hread hahead c⟩⟩
    have hle := length_le_length_gapText gap
    rw [hahead, List.length_append]
    omega

/-- Whether a scanner has found the end of its source. -/
structure Ended (s : Scanner) : Prop where
  ahead : s.reader.ahead = []
  itemStart : s.itemStart = s.position

/-- A call that gives nothing leaves the scanner at the end. -/
theorem ended_of_call_eq_none (h : (s.call c).1 = none) : (s.call c).2.Ended := by
  obtain ⟨gap, hgap, hahead⟩ := call_eq_none_iff.1 h
  have hskip : (s.skipAll gap).reader.ahead = [] := by
    rw [reader_skipAll (hahead.trans (List.append_nil _).symm)]
  rw [call_ending hgap hahead]
  exact ⟨hskip, rfl⟩

/-- At the end a call gives nothing and changes nothing. -/
theorem Ended.call (h : s.Ended) (c : Call) : s.call c = (none, s) := by
  have hgap : IsGap [] := ⟨by simp, by simp⟩
  rw [call_ending hgap h.ahead, skipAll_nil, finish, ← h.itemStart]

/-- A scanner at the end stays as it is, and gives nothing any more. -/
theorem Ended.calls (h : s.Ended) (cs : List Call) :
    s.calls cs = (List.replicate cs.length none, s) := by
  induction cs with
  | nil => rfl
  | cons c cs ih => rw [calls_cons, h.call c, ih, List.length_cons, List.replicate_succ]

/-! ## a call that gives a token -/

/-- A call that gives a token leaves less ahead. -/
theorem length_ahead_call_lt {answer : Pulled} (h : (s.call c).1 = some answer) :
    (s.call c).2.reader.ahead.length < s.reader.ahead.length := by
  cases c with
  | pull => exact length_ahead_pull_lt (Prod.ext h rfl)
  | next =>
      obtain ⟨token, htoken, -⟩ := Option.map_eq_some_iff.1 h
      exact length_ahead_next_lt (Prod.ext htoken rfl)

/-- What a call reads lies before what it leaves ahead. -/
theorem offset_call (s : Scanner) (c : Call) :
    ∃ text, s.reader.ahead = text ++ (s.call c).2.reader.ahead ∧
      (s.call c).2.position.offset = s.position.offset + Text.byteLength text := by
  obtain ⟨text, rest, hahead, hread⟩ := reader_pull s
  rw [← reader_call s c] at hread
  refine ⟨text, by rw [hread, hahead], ?_⟩
  rw [position, hread, Position.offset_after]

/-- A call that gives a token moves the offset on. -/
theorem offset_lt_of_call_eq_some {answer : Pulled} (h : (s.call c).1 = some answer) :
    s.position.offset < (s.call c).2.position.offset := by
  obtain ⟨text, hahead, hoffset⟩ := offset_call s c
  have hlt := length_ahead_call_lt h
  have htext : text ≠ [] := by
    rintro rfl
    rw [hahead, List.nil_append] at hlt
    exact absurd hlt (Nat.lt_irrefl _)
  have := byteLength_pos htext
  omega

/-! ## a run of calls -/

/-- Each token of a run is paid for by a character. -/
theorem countP_calls_add_le (s : Scanner) (cs : List Call) :
    (s.calls cs).1.countP Option.isSome + (s.calls cs).2.reader.ahead.length ≤
      s.reader.ahead.length := by
  induction cs generalizing s with
  | nil => simp
  | cons c cs ih =>
      have hrest := ih (s.call c).2
      rw [calls_cons, List.countP_cons]
      cases hanswer : (s.call c).1 with
      | none =>
          rw [(ended_of_call_eq_none hanswer).ahead, List.length_nil] at hrest
          simp only [Option.isSome_none, Bool.false_eq_true, if_false]
          omega
      | some answer =>
          have hlt := length_ahead_call_lt hanswer
          simp only [Option.isSome_some, if_true]
          omega

/-- There is one answer to each call. -/
theorem length_calls (s : Scanner) (cs : List Call) : (s.calls cs).1.length = cs.length := by
  induction cs generalizing s with
  | nil => rfl
  | cons c cs ih => rw [calls_cons, List.length_cons, ih, List.length_cons]

/-- A run of more calls than there are characters finds the end. -/
theorem none_mem_calls {cs : List Call} (h : s.reader.ahead.length < cs.length) :
    none ∈ (s.calls cs).1 := by
  have hcount := countP_calls_add_le s cs
  have hlength := length_calls s cs
  have hsome : ¬ ∀ answer ∈ (s.calls cs).1, answer.isSome = true := by
    intro hall
    rw [List.countP_eq_length.2 hall] at hcount
    omega
  simpa using hsome

/-! ## the end of the source -/

/-- A scanner with nothing ahead stands at the end of its source. -/
theorem StandsIn.offset_eq_of_nil {source : List Char} (h : s.StandsIn source)
    (hend : s.reader.ahead = []) : s.position.offset = Text.byteLength source := by
  have hsource := h.reader.source_eq
  rw [hend, List.append_nil] at hsource
  rw [hsource]
  exact h.reader.offset_eq

/-- A call ends after passing over no more pieces than there are characters.  Either it
gives a token, and has read a byte at least; or only a gap was left, and from then
on the scanner is at the end of the source and no call changes anything.  So no run
over the source gives more tokens than the source has characters, and one call more
finds the end. -/
theorem call_advances_or_ends (source : String) (s : Scanner) (h : s.Reached source) (c : Call) :
    (∃ gap, IsGap gap ∧ gap.length ≤ s.reader.ahead.length ∧
      (s.call c = (none, (s.skipAll gap).finish) ∨
        ∃ r, (s.call c).1.map Pulled.token = some r.token ∧
          (s.call c).2 = (s.skipAll gap).takeBy r c)) ∧
    (∀ answer, (s.call c).1 = some answer →
      s.position.offset < (s.call c).2.position.offset ∧
        (s.call c).2.position.offset ≤ Text.byteLength source.toList) ∧
    ((s.call c).1 = none ↔
      ∃ gap, IsGap gap ∧ Text.dropBytes? s.position.offset source.toList = some (gapText gap)) ∧
    ((s.call c).1 = none →
      (s.call c).2.position.offset = Text.byteLength source.toList ∧
        ∀ cs, (s.call c).2.calls cs = (List.replicate cs.length none, (s.call c).2)) ∧
    ∀ log cs,
      ((ofSource source log).calls cs).1.countP Option.isSome ≤ source.length ∧
        (source.length < cs.length → none ∈ ((ofSource source log).calls cs).1) := by
  have hstands : s.StandsIn source.toList := h.standsIn
  have hafter : (s.call c).2.StandsIn source.toList := hstands.call c
  have hremaining : Text.dropBytes? s.position.offset source.toList = some s.reader.ahead :=
    hstands.reader.dropBytes?_offset
  refine ⟨exists_gap_of_call s c, fun answer hanswer => ?_, ?_, fun hnone => ?_,
    fun log cs => ?_⟩
  · exact ⟨offset_lt_of_call_eq_some hanswer, hafter.reader.offset_le⟩
  · simp only [hremaining, Option.some.injEq]
    exact call_eq_none_iff
  · have hended : (s.call c).2.Ended := ended_of_call_eq_none hnone
    exact ⟨hafter.offset_eq_of_nil hended.ahead, hended.calls⟩
  · have hlength : (ofSource source log).reader.ahead.length = source.length :=
      String.length_toList
    have hcount := countP_calls_add_le (ofSource source log) cs
    exact ⟨by omega, fun hlt => none_mem_calls (by rw [hlength]; exact hlt)⟩

/-- After the `x` only a gap is left; the NUL in its comment is not the end. -/
theorem call_advances_or_ends_comment :
    let s := (ofSource "x @/**/ /*\x00").pull.2
    s.Reached "x @/**/ /*\x00" ∧ (s.call .next).1 = none ∧
      (∃ gap, IsGap gap ∧
        Text.dropBytes? s.position.offset "x @/**/ /*\x00".toList = some (gapText gap)) ∧
      (s.call .next).2.position.offset = Text.byteLength "x @/**/ /*\x00".toList ∧
      (s.call .next).2.calls [.pull, .next] = ([none, none], (s.call .next).2) := by
  intro s
  have hreached : s.Reached "x @/**/ /*\x00" := .pull (.start {})
  have hnone : (s.call .next).1 = none := by decide +kernel
  obtain ⟨-, -, hgap, hend, -⟩ := call_advances_or_ends "x @/**/ /*\x00" s hreached .next
  exact ⟨hreached, hnone, hgap.1 hnone, (hend hnone).1, (hend hnone).2 [.pull, .next]⟩

end Scanner

end PascalTokens.Scan
