import PascalTokens.Proofs.Flaws
import PascalTokens.Proofs.Horizon
import PascalTokens.Proofs.Memory
import PascalTokens.Proofs.TokenStream

/-!
# PascalTokens.Proofs.Interleaving

Operations on one scanner in any order.  How a token is pulled decides no more
than whether an incomplete literal is reported, and clearing the record of
skipped characters changes nothing but that record.

The step is one call, told by the layout of what is ahead: it takes the first
token of the layout (`StandsBefore.call`), wherever the scanner has been
(`StandsAlike.call`).  The main statement is `perform_ofSource`: after any
operations the answers are the first tokens of the source, the scanner stands
where as many calls of `next` lead, and what it has recorded and reported is
told by the layout of the source and by the messages about it.
-/

namespace PascalTokens.Scan

/-! ## the calls among some operations -/

namespace Operation

/-- How many calls there are among some operations. -/
def callCount (os : List Operation) : Nat := (os.filterMap call?).length

/-- The operations after the last one that clears the record. -/
def sinceClear : List Operation → List Operation
  | [] => []
  | o :: os => if .clear ∈ o :: os then sinceClear os else o :: os

/-- A clear further on makes what comes first irrelevant to the record. -/
theorem sinceClear_cons_of_mem {o : Operation} {os : List Operation} (h : .clear ∈ o :: os) :
    sinceClear (o :: os) = sinceClear os := by
  rw [sinceClear, if_pos h]

/-- Without a clear every operation counts. -/
theorem sinceClear_of_not_mem {os : List Operation} (h : .clear ∉ os) : sinceClear os = os := by
  cases os with
  | nil => rfl
  | cons o os => rw [sinceClear, if_neg h]

/-- The operations since the last clear are the last ones. -/
theorem sinceClear_isSuffix (os : List Operation) : sinceClear os <:+ os := by
  induction os with
  | nil => exact List.suffix_rfl
  | cons o os ih =>
      unfold sinceClear
      split
      · exact ih.trans (List.suffix_cons o os)
      · exact List.suffix_rfl

/-- There are no more calls since the last clear than there are calls. -/
theorem callCount_sinceClear_le (os : List Operation) :
    callCount (sinceClear os) ≤ callCount os :=
  ((sinceClear_isSuffix os).sublist.filterMap call?).length_le

theorem callCount_cons_clear {o : Operation} (h : o.call? = none) (os : List Operation) :
    callCount (o :: os) = callCount os := by
  rw [callCount, List.filterMap_cons_none h, callCount]

theorem callCount_cons_call {o : Operation} {c : Call} (h : o.call? = some c)
    (os : List Operation) : callCount (o :: os) = callCount os + 1 := by
  rw [callCount, List.filterMap_cons_some h, List.length_cons, callCount]

/-- The one operation that is no call is the clear. -/
theorem call?_eq_none_iff {o : Operation} : o.call? = none ↔ o = .clear := by
  cases o <;> simp [call?]

end Operation

/-! ## the front of a layout -/

namespace Layout

/-- The gap that a layout starts with. -/
def firstGap : Layout → List Skipped
  | ending gap => gap
  | token gap _ _ => gap

/-- The first gap and the token after it, if there is one. -/
def firstText : Layout → List Char
  | ending gap => gapText gap
  | token gap r _ => gapText gap ++ r.text

/-- What follows the first token; nothing follows the last gap. -/
def others : Layout → Layout
  | ending _ => ending []
  | token _ _ others => others

/-- The flaws that a call reports which takes the first token. -/
def reportedBy (c : Call) (before : List Char) : Layout → List Flaw
  | ending gap => flaws before (gap.map .skipped)
  | token gap r _ =>
    flaws before (gap.map .skipped) ++
      if c = .next then (r.fault.map (Flaw.mk (before ++ gapText gap) r.text)).toList else []

/-- The flaws that some calls report which take the tokens one after another. -/
def reportedByAll : List Call → List Char → Layout → List Flaw
  | [], _, _ => []
  | c :: cs, before, l =>
    l.reportedBy c before ++ reportedByAll cs (before ++ l.firstText) l.others

/-- The text of a gap is that of its items. -/
theorem flatMap_text_gap (gap : List Skipped) :
    (gap.map Item.skipped).flatMap Item.text = gapText gap := by
  rw [List.flatMap_map]
  rfl

/-- Behind the first token stand the other tokens. -/
theorem tokens_others (l : Layout) : l.others.tokens = l.tokens.drop 1 := by
  cases l <;> rfl

/-- The characters of the gaps before some tokens, the first gap apart. -/
theorem unrecognized_take_gaps (l : Layout) (n : Nat) :
    (l.gaps.take (n + 1)).flatMap gapUnrecognized =
      gapUnrecognized l.firstGap ++ (l.others.gaps.take n).flatMap gapUnrecognized := by
  cases l with
  | ending gap => cases n <;> simp [gaps, firstGap, others, gapUnrecognized]
  | token gap r others => simp [gaps, firstGap, Layout.others]

/-- Counting gaps from the second one is counting them in the rest of the layout. -/
theorem unrecognized_drop_gaps (l : Layout) (n m : Nat) :
    ((l.gaps.take (n + 1)).drop (m + 1)).flatMap gapUnrecognized =
      ((l.others.gaps.take n).drop m).flatMap gapUnrecognized := by
  cases l with
  | ending gap => cases n <;> cases m <;> simp [gaps, others, gapUnrecognized]
  | token gap r others => simp [gaps, Layout.others]

end Layout

namespace Scanner

/-! ## one call -/

section

variable {s : Scanner} {before : List Char} {l : Layout}

/-- The scanner after a call that takes a token which was read where it stands. -/
def takeBy (s : Scanner) (r : Reading) : Call → Scanner
  | .pull => (s.take r).2
  | .next => s.pass (.token r)

theorem unrecognized_takeBy (s : Scanner) (r : Reading) (c : Call) :
    (s.takeBy r c).unrecognized = s.unrecognized := by
  cases c with
  | pull => exact unrecognized_take s r
  | next => simp only [takeBy, pass, take]; cases r.fault <;> rfl

/-- Taking a token reports nothing; it is `next` that does. -/
theorem log_take (s : Scanner) (r : Reading) : (s.take r).2.log = s.log := by
  unfold take
  split <;> rfl

/-- After a token of either call the lookback is that token. -/
theorem preceding_takeBy (s : Scanner) (r : Reading) (c : Call) :
    (s.takeBy r c).preceding = .ofToken r.token := by
  cases c with
  | pull => exact preceding_take s r
  | next => exact preceding_pass s (.token r)

/-- A call finds the end of the source, or passes over a gap and takes a token. -/
theorem call_ending {gap : List Skipped} (hgap : IsGap gap) (h : s.reader.ahead = gapText gap)
    (c : Call) : s.call c = (none, (s.skipAll gap).finish) := by
  have hpull := pull_ending hgap h
  cases c with
  | pull => exact hpull
  | next => simp [call, next, hpull]

/-- A call in front of a gap and a token gives that token, and leaves the scanner behind
both. -/
theorem call_token {gap : List Skipped} {r : Reading} {rest : List Char} (hgap : IsClosedGap gap)
    (hread : Reads s.preceding r rest) (h : s.reader.ahead = gapText gap ++ (r.text ++ rest))
    (c : Call) :
    (s.call c).1.map Pulled.token = some r.token ∧ (s.call c).2 = (s.skipAll gap).takeBy r c := by
  have hahead : (s.skipAll gap).reader.ahead = r.text ++ rest := by rw [reader_skipAll h]
  have hpull := pull_token hgap hread h
  have htake := take_fst _ _ hahead
  cases c with
  | pull => simp [call, hpull, htake, takeBy]
  | next =>
      simp only [call, next, hpull, takeBy, pass, take]
      cases r.fault <;> exact ⟨rfl, rfl⟩

/-- Whether a scanner stands before what is laid out, after a text. -/
structure StandsBefore (before : List Char) (l : Layout) (s : Scanner) : Prop where
  stands : l.Stands s.preceding
  ahead : s.reader.ahead = l.text
  place : s.position = .after {} before

/-- A new scanner stands before the whole layout of its source. -/
theorem StandsBefore.ofSource (source : String) (log : DiagnosticLog) :
    (ofSource source log).StandsBefore [] (layout source) where
  stands := stands_layoutAfter .nothing source.toList
  ahead := (text_layoutAfter .nothing source.toList).symm
  place := rfl

/-- Passing over a gap reports the characters in it that start no token. -/
theorem toList_log_skipAll {gap : List Skipped} {rest : List Char}
    (hplace : s.position = .after {} before) (h : s.reader.ahead = gapText gap ++ rest) :
    (s.skipAll gap).log.toList =
      s.log.toList ++ (flaws before (gap.map .skipped)).map Flaw.diagnostic := by
  have hpass : s.skipAll gap = (gap.map .skipped).foldl pass s := by
    rw [List.foldl_map]
    rfl
  rw [← Layout.flatMap_text_gap] at h
  rw [hpass, toList_log_foldl_pass before hplace h]

/-- Skipping a gap reports the unrecognized characters in it. -/
theorem StandsBefore.toList_log_skipAll (h : s.StandsBefore before l) :
    (s.skipAll l.firstGap).log.toList =
      s.log.toList ++ (flaws before (l.firstGap.map .skipped)).map Flaw.diagnostic := by
  obtain ⟨rest, hahead⟩ : ∃ rest, s.reader.ahead = gapText l.firstGap ++ rest := by
    rw [h.ahead]
    cases l with
    | ending gap => exact ⟨[], (List.append_nil _).symm⟩
    | token gap r others => exact ⟨_, rfl⟩
  exact Scanner.toList_log_skipAll h.place hahead

/-- Taking a token reports it if it is incomplete and the call is `next`. -/
theorem StandsBefore.toList_log_takeBy {gap : List Skipped} {r : Reading} {others : Layout}
    (h : s.StandsBefore before (.token gap r others)) (c : Call) :
    ((s.skipAll gap).takeBy r c).log.toList = (s.skipAll gap).log.toList ++
      (if c = .next then (r.fault.map (Flaw.mk (before ++ gapText gap) r.text)).toList
        else []).map Flaw.diagnostic := by
  have hskip := reader_skipAll h.ahead
  cases c with
  | pull => simp [takeBy, log_take]
  | next =>
      have hahead : (s.skipAll gap).reader.ahead = (Item.token r).text ++ others.text := by
        rw [hskip]
        rfl
      have hplace : (s.skipAll gap).position = .after {} (before ++ gapText gap) := by
        rw [position, hskip, h.place, Position.after_append]
      rw [takeBy, toList_log_pass hahead, hplace]
      cases hfault : r.fault with
      | none => simp [Item.fault?, hfault]
      | some fault =>
          simp [Item.fault?, hfault, Flaw.diagnostic, Flaw.region, Item.text]

/-- What a call does to a scanner before a layout: it answers with the first token,
records the characters of the first gap, reports the flaws up to there, and
leads to what follows. -/
theorem StandsBefore.call (h : s.StandsBefore before l) (c : Call) :
    (s.call c).1.map Pulled.token = l.tokens.head? ∧
      (s.call c).2.unrecognized.toList =
        s.unrecognized.toList ++ gapUnrecognized l.firstGap ∧
      (s.call c).2.log.toList = s.log.toList ++ (l.reportedBy c before).map Flaw.diagnostic ∧
      (s.call c).2.StandsBefore (before ++ l.firstText) l.others := by
  have hlog := h.toList_log_skipAll
  cases l with
  | ending gap =>
      have htext : s.reader.ahead = gapText gap ++ [] := by
        rw [h.ahead, List.append_nil]
        rfl
      have hskip := reader_skipAll htext
      rw [call_ending h.stands h.ahead c]
      refine ⟨rfl, unrecognized_skipAll s gap, hlog, ?_, ?_, ?_⟩
      · simp [Layout.others, Layout.Stands, IsGap]
      · rw [finish, hskip]
        rfl
      · rw [finish, position, hskip, h.place, Layout.firstText, Position.after_append]
  | token gap r others =>
      obtain ⟨hgap, hread, hothers⟩ := h.stands
      have hskip := reader_skipAll h.ahead
      obtain ⟨htoken, hscanner⟩ := call_token hgap hread h.ahead c
      have hreader : (s.call c).2.reader =
          ⟨r.text.reverse ++ (s.skipAll gap).reader.behind, others.text,
            (s.position.after (gapText gap)).after r.text⟩ := by
        rw [reader_call, pull_token hgap hread h.ahead, reader_take_of_ahead (by rw [hskip]),
          position, hskip]
      refine ⟨htoken, ?_, ?_, ?_, ?_, ?_⟩
      · rw [hscanner, unrecognized_takeBy, unrecognized_skipAll]
        rfl
      · simp only [Layout.firstGap] at hlog
        rw [hscanner, h.toList_log_takeBy c, hlog, Layout.reportedBy, List.map_append,
          List.append_assoc]
      · rw [hscanner, preceding_takeBy]
        exact hothers
      · rw [hreader]
        rfl
      · rw [position, hreader, h.place, Layout.firstText, Position.after_append,
          Position.after_append]

end

/-! ## where calls lead -/

/-- Whether two scanners stand at the same place of the same text, after the same
token. -/
structure StandsAlike (s t : Scanner) : Prop where
  reader : t.reader = s.reader
  preceding : t.preceding = s.preceding
  itemStart : t.itemStart = s.itemStart

namespace StandsAlike

variable {s t : Scanner}

theorem refl (s : Scanner) : s.StandsAlike s := ⟨rfl, rfl, rfl⟩

theorem symm (h : s.StandsAlike t) : t.StandsAlike s :=
  ⟨h.reader.symm, h.preceding.symm, h.itemStart.symm⟩

theorem trans {u : Scanner} (h : s.StandsAlike t) (hu : t.StandsAlike u) : s.StandsAlike u :=
  ⟨hu.reader.trans h.reader, hu.preceding.trans h.preceding, hu.itemStart.trans h.itemStart⟩

/-- Two such scanners stand at the same offset, line and column. -/
theorem position_eq (h : s.StandsAlike t) : t.position = s.position := by
  rw [position, h.reader, position]

theorem region_eq (h : s.StandsAlike t) : t.region = s.region := by
  rw [region, h.itemStart, h.position_eq, region]

/-- Clearing the record does not move the scanner. -/
theorem clear (s : Scanner) : s.StandsAlike s.clearUnrecognized := ⟨rfl, rfl, rfl⟩

theorem skip (h : s.StandsAlike t) (k : Skipped) : (s.skip k).StandsAlike (t.skip k) where
  reader := by rw [reader_skip, reader_skip, h.reader]
  preceding := by rw [preceding_skip, preceding_skip, h.preceding]
  itemStart := by cases k <;> exact h.position_eq

theorem take (h : s.StandsAlike t) (r : Reading) : (s.take r).2.StandsAlike (t.take r).2 where
  reader := by rw [reader_take, reader_take, h.reader]
  preceding := by rw [preceding_take, preceding_take]
  itemStart := by rw [itemStart_take, itemStart_take, h.position_eq]

theorem finish (h : s.StandsAlike t) : s.finish.StandsAlike t.finish :=
  ⟨h.reader, h.preceding, h.position_eq⟩

/-- Pulling looks at nothing but the place and the lookback. -/
theorem pull (h : s.StandsAlike t) : s.pull.2.StandsAlike t.pull.2 := by
  have hnext (s t : Scanner) (h : s.StandsAlike t) :
      Item.next? t.preceding t.reader.ahead = Item.next? s.preceding s.reader.ahead := by
    rw [h.preceding, h.reader]
  fun_induction Scanner.pull s generalizing t with
  | case1 s hnone =>
      rw [pull_of_none ((hnext s t h).trans hnone)]
      exact h.finish
  | case2 s k hk ih =>
      rw [pull_of_skipped ((hnext s t h).trans hk)]
      exact ih (h.skip k)
  | case3 s r hr pulled s' htake =>
      rw [pull_of_token ((hnext s t h).trans hr)]
      have hboth := h.take r
      rwa [htake] at hboth

/-- Both kinds of call lead to the same place. -/
theorem pull_call (s : Scanner) (c : Call) : s.pull.2.StandsAlike (s.call c).2 := by
  cases c with
  | pull => exact refl _
  | next =>
      simp only [Scanner.call, Scanner.next]
      split
      · next h => rw [h]; exact refl _
      · next h => rw [h]; exact refl _
      · next h => rw [h]; exact ⟨rfl, rfl, rfl⟩

/-- Calls of either kind lead two scanners to one place, as they differ only in what they
record. -/
theorem call (h : s.StandsAlike t) (c d : Call) : (s.call c).2.StandsAlike (t.call d).2 :=
  (pull_call s c).symm.trans (h.pull.trans (pull_call t d))

/-- Operations lead where as many calls of one kind do as there are calls among
them. -/
theorem perform (h : s.StandsAlike t) (os : List Operation) (d : Call) :
    (s.perform os).2.StandsAlike
      (t.calls (List.replicate (Operation.callCount os) d)).2 := by
  induction os generalizing s t with
  | nil => exact h
  | cons o os ih =>
      cases hcall : o.call? with
      | none =>
          rw [perform_clear hcall, Operation.callCount_cons_clear hcall]
          exact ih ((clear s).symm.trans h)
      | some c =>
          rw [perform_call hcall, Operation.callCount_cons_call hcall, List.replicate_succ,
            calls_cons]
          exact ih (h.call c d)

end StandsAlike

/-! ## what operations answer -/

section

variable {s : Scanner} {before : List Char} {l : Layout}

theorem StandsBefore.clear (h : s.StandsBefore before l) :
    s.clearUnrecognized.StandsBefore before l := ⟨h.stands, h.ahead, h.place⟩

/-- The calls among some operations answer with the tokens that are laid out, one
after another, and then with nothing. -/
theorem StandsBefore.map_token_perform (h : s.StandsBefore before l) (os : List Operation) :
    (s.perform os).1.map (Option.map Pulled.token) =
      (List.range (Operation.callCount os)).map (l.tokens[·]?) := by
  induction os generalizing s before l with
  | nil => rfl
  | cons o os ih =>
      cases hcall : o.call? with
      | none => rw [perform_clear hcall, Operation.callCount_cons_clear hcall, ih h.clear]
      | some c =>
          obtain ⟨htoken, -, -, hothers⟩ := h.call c
          rw [perform_call hcall, Operation.callCount_cons_call hcall, List.range_succ_eq_map,
            List.map_cons, List.map_cons, List.map_map, ih hothers, htoken,
            List.head?_eq_getElem?, l.tokens_others]
          simp [Function.comp_def]

/-- What is remembered is the last token that was answered, or what was remembered
before. -/
theorem StandsBefore.preceding_call (h : s.StandsBefore before l) (c : Call) :
    (s.call c).2.preceding = (((s.call c).1.map Pulled.token).map .ofToken).getD s.preceding := by
  cases l with
  | ending gap =>
      rw [call_ending h.stands h.ahead c]
      exact preceding_skipAll s gap
  | token gap r others =>
      obtain ⟨hgap, hread, -⟩ := h.stands
      obtain ⟨htoken, hscanner⟩ := call_token hgap hread h.ahead c
      rw [htoken, hscanner, preceding_takeBy]
      rfl

/-- The lookback is the last token given, or the one from before if none was. -/
theorem StandsBefore.preceding_perform (h : s.StandsBefore before l) (os : List Operation) :
    (s.perform os).2.preceding =
      (((s.perform os).1.filterMap (Option.map Pulled.token)).getLast?.map .ofToken).getD
        s.preceding := by
  induction os generalizing s before l with
  | nil => rfl
  | cons o os ih =>
      cases hcall : o.call? with
      | none =>
          rw [perform_clear hcall]
          exact ih h.clear
      | some c =>
          obtain ⟨-, -, -, hothers⟩ := h.call c
          rw [perform_call hcall, ih hothers, h.preceding_call c]
          cases htoken : (s.call c).1.map Pulled.token with
          | none => rw [List.filterMap_cons_none htoken]; rfl
          | some t =>
              rw [List.filterMap_cons_some htoken, List.getLast?_cons]
              cases List.getLast? _ <;> rfl

end

/-! ## what operations record -/

/-- The record holds the characters of the gaps before the tokens that were pulled
since it was cleared, after what it held before if it was not. -/
theorem StandsBefore.unrecognized_perform {s : Scanner} {before : List Char} {l : Layout}
    (h : s.StandsBefore before l) (os : List Operation) :
    (s.perform os).2.unrecognized.toList =
      (if .clear ∈ os then [] else s.unrecognized.toList) ++
        ((l.gaps.take (Operation.callCount os)).drop
          (Operation.callCount os - Operation.callCount (Operation.sinceClear os))).flatMap
            gapUnrecognized := by
  induction os generalizing s before l with
  | nil => simp [Operation.callCount]
  | cons o os ih =>
      cases hcall : o.call? with
      | none =>
          obtain rfl := Operation.call?_eq_none_iff.1 hcall
          rw [perform_clear hcall, ih h.clear, Operation.sinceClear_cons_of_mem List.mem_cons_self,
            Operation.callCount_cons_clear hcall]
          simp [clearUnrecognized]
      | some c =>
          have ho : o ≠ .clear := fun ho => by rw [ho] at hcall; cases hcall
          obtain ⟨-, hrecord, -, hothers⟩ := h.call c
          have hle := Operation.callCount_sinceClear_le os
          rw [perform_call hcall, ih hothers, hrecord, Operation.callCount_cons_call hcall]
          by_cases hclear : .clear ∈ os
          · rw [Operation.sinceClear_cons_of_mem (List.mem_cons_of_mem o hclear), if_pos hclear,
              if_pos (List.mem_cons_of_mem o hclear), Nat.sub_add_comm hle,
              l.unrecognized_drop_gaps]
          · have hnot : .clear ∉ o :: os := by simp [hclear, ho.symm]
            rw [Operation.sinceClear_of_not_mem hclear, Operation.sinceClear_of_not_mem hnot,
              if_neg hclear, if_neg hnot, Operation.callCount_cons_call hcall, Nat.sub_self,
              Nat.sub_self, List.drop_zero, List.drop_zero, l.unrecognized_take_gaps,
              List.append_assoc]

end Scanner

/-! ## what operations report

Added to the log is what each call reports (`Layout.reportedByAll`).  That these are the
flaws of the source up to the offset reached, without the literals that only `pull`
took, rests on the order of the source: what is taken later lies behind what was taken
before, so the regions heard later are no regions of earlier flaws.
-/

/-- What calls of `next` pull, among calls that take the tokens of a layout one after
another. -/
def pullsHeard (cs : List Call) (place : Position) (l : Layout) : List Pull :=
  ((cs.zip (l.pulls place)).filter (·.1 = .next)).map (·.2)

/-- The regions of the tokens that calls of `next` take. -/
def regionsHeard (cs : List Call) (place : Position) (l : Layout) : List Region :=
  (pullsHeard cs place l).map Pull.region

/-- Whether a flaw was met before an offset, and is reported there: a character that
was skipped always is, and a literal if its region was heard. -/
def isHeard (stop : Nat) (heard : List Region) (f : Flaw) : Bool :=
  f.region.stop ≤ stop && (f.isWarning || heard.contains f.region)

/-- The first call hears the first token if it is `next`. -/
theorem pullsHeard_cons_token (c : Call) (cs : List Call) (place : Position)
    (gap : List Skipped) (r : Reading) (rest : Layout) :
    pullsHeard (c :: cs) place (.token gap r rest) =
      (if c = .next then
        [⟨r.pulledAt (place.after (gapText gap)),
          .between (place.after (gapText gap)) (place.after (gapText gap ++ r.text))⟩] else []) ++
        pullsHeard cs (place.after (gapText gap ++ r.text)) rest := by
  cases c <;> simp [pullsHeard, Layout.pulls]

/-- The first call hears the region of the first token if it is `next`. -/
theorem regionsHeard_cons_token (c : Call) (cs : List Call) (place : Position)
    (gap : List Skipped) (r : Reading) (rest : Layout) :
    regionsHeard (c :: cs) place (.token gap r rest) =
      (if c = .next then
        [.between (place.after (gapText gap)) (place.after (gapText gap ++ r.text))] else []) ++
        regionsHeard cs (place.after (gapText gap ++ r.text)) rest := by
  rw [regionsHeard, pullsHeard_cons_token]
  cases c <;> rfl

/-- No region heard lies before the place the calls start from. -/
theorem le_start_of_mem_regionsHeard {cs : List Call} {place : Position} {l : Layout}
    {region : Region} (h : region ∈ regionsHeard cs place l) : place.offset ≤ region.start := by
  obtain ⟨pull, hpull, rfl⟩ := List.mem_map.1 h
  obtain ⟨⟨c, pull⟩, hzip, rfl⟩ := List.mem_map.1 hpull
  exact Layout.offset_le_start (List.of_mem_zip (List.mem_of_mem_filter hzip)).2

/-- No flaw of a list of items lies before the items. -/
theorem le_start_of_mem_flaws {before : List Char} {is : List Item} {f : Flaw}
    (h : f ∈ flaws before is) : Text.byteLength before ≤ f.region.start := by
  obtain ⟨-, front, -, hfront, -⟩ := exists_of_mem_flaws h
  rw [Flaw.start_region, hfront, Text.byteLength_append]
  exact Nat.le_add_right _ _

/-- No flaw of a list of items reaches beyond them. -/
theorem stop_le_of_mem_flaws {before : List Char} {is : List Item} {f : Flaw}
    (h : f ∈ flaws before is) :
    f.region.stop ≤ Text.byteLength (before ++ is.flatMap Item.text) := by
  obtain ⟨-, -, after, -, hafter⟩ := exists_of_mem_flaws h
  rw [Flaw.stop_region, hafter, Text.byteLength_append, Text.byteLength_append]
  exact Nat.le_add_right _ _

/-- The flaws of a gap are all reported. -/
theorem filter_isHeard_flaws_gap {before : List Char} {gap : List Skipped} {stop : Nat}
    (hstop : Text.byteLength (before ++ gapText gap) ≤ stop) (heard : List Region) :
    (flaws before (gap.map .skipped)).filter (isHeard stop heard) =
      flaws before (gap.map .skipped) := by
  refine List.filter_eq_self.2 fun f hf => ?_
  have hle := stop_le_of_mem_flaws hf
  rw [Layout.flatMap_text_gap] at hle
  obtain ⟨c, hc⟩ := mem_flaws_gap hf
  have hwarning : f.isWarning = true := by rw [Flaw.isWarning, hc]; rfl
  simp [isHeard, hwarning, Nat.le_trans hle hstop]

namespace Layout

/-- The flaws of a layout are what one call of `next` reports, and then those of the rest.
-/
theorem flaws_items (before : List Char) (l : Layout) :
    flaws before l.items =
      l.reportedBy .next before ++ flaws (before ++ l.firstText) l.others.items := by
  cases l with
  | ending gap => simp [items, reportedBy, others, flaws]
  | token gap r rest =>
      rw [flaws_items_token]
      simp [reportedBy, firstText, others]

/-- The region of a token comes before those that are heard later. -/
theorem not_mem_regionsHeard (before gap : List Char) {text : List Char} (hne : text ≠ [])
    (cs : List Call) (rest : Layout) (stop : Position) :
    .between (.after {} (before ++ gap)) stop ∉
      regionsHeard cs (.after {} (before ++ (gap ++ text))) rest := by
  intro hmem
  have hle := le_start_of_mem_regionsHeard hmem
  have hpos := byteLength_pos hne
  simp only [Region.between, Position.offset_after, Text.byteLength_append] at hle
  omega

/-- Of the flaws up to the end of the first token, those are reported that the call
reports which takes it. -/
theorem filter_isHeard_reportedBy {preceding : Preceding} {l : Layout} {before : List Char}
    {stop : Nat} (hstands : l.Stands preceding)
    (hstop : Text.byteLength (before ++ l.firstText) ≤ stop) (c : Call) (cs : List Call) :
    (l.reportedBy .next before).filter
        (isHeard stop (regionsHeard (c :: cs) (.after {} before) l)) =
      l.reportedBy c before := by
  cases l with
  | ending gap => exact filter_isHeard_flaws_gap hstop _
  | token gap r rest =>
      obtain ⟨-, hread, -⟩ := hstands
      rw [firstText, ← List.append_assoc] at hstop
      have hgap : Text.byteLength (before ++ gapText gap) ≤ stop := by
        rw [Text.byteLength_append] at hstop
        omega
      rw [reportedBy, reportedBy, if_pos rfl, List.filter_append, filter_isHeard_flaws_gap hgap]
      congr 1
      cases hfault : r.fault with
      | none => simp
      | some fault =>
          obtain ⟨code, herror⟩ := hread.exists_isErrorUnder hfault
          have hwarning : Flaw.isWarning ⟨before ++ gapText gap, r.text, fault⟩ = false := by
            simp [Flaw.isWarning, herror.severity_eq, Severity.isWarning]
          have hpassed : (Flaw.mk (before ++ gapText gap) r.text fault).region.stop ≤ stop := by
            rwa [Flaw.stop_region, ← Text.byteLength_append]
          have hlater := not_mem_regionsHeard before (gapText gap) hread.text_ne_nil cs rest
            (.after {} (before ++ gapText gap ++ r.text))
          rw [regionsHeard_cons_token, ← Position.after_append, ← Position.after_append,
            ← List.append_assoc]
          have hregion : (Flaw.mk (before ++ gapText gap) r.text fault).region =
              .between (.after {} (before ++ gapText gap))
                (.after {} (before ++ gapText gap ++ r.text)) := rfl
          rw [← hregion] at hlater ⊢
          -- Taken by `pull` the literal is not heard: the regions that are heard lie behind
          -- it.
          cases c with
          | pull => simp [isHeard, hwarning, hlater, -Position.after_append]
          | next => simp [isHeard, hpassed]

/-- Whether a later flaw is reported depends on the later calls alone. -/
theorem filter_isHeard_others {preceding : Preceding} {l : Layout} (hstands : l.Stands preceding)
    (before : List Char) (stop : Nat) (c : Call) (cs : List Call) :
    (flaws (before ++ l.firstText) l.others.items).filter
        (isHeard stop (regionsHeard (c :: cs) (.after {} before) l)) =
      (flaws (before ++ l.firstText) l.others.items).filter
        (isHeard stop (regionsHeard cs (.after {} (before ++ l.firstText)) l.others)) := by
  cases l with
  | ending gap => rfl
  | token gap r rest =>
      obtain ⟨-, hread, -⟩ := hstands
      refine List.filter_congr fun f hf => ?_
      have hle := le_start_of_mem_flaws hf
      have hpos := byteLength_pos hread.text_ne_nil
      have hne : f.region ≠ .between (.after {} (before ++ gapText gap))
          (.after {} (before ++ (gapText gap ++ r.text))) := by
        intro heq
        rw [heq] at hle
        simp only [firstText, Region.between, Position.offset_after, Text.byteLength_append] at hle
        omega
      rw [regionsHeard_cons_token, ← Position.after_append, ← Position.after_append]
      cases c with
      | pull => rfl
      | next => simp [isHeard, hne, firstText, others, -Position.after_append]

/-- A call warns of the characters in the gap that it passes over. -/
theorem Stands.forall₂_warnings_reportedBy {preceding : Preceding} {l : Layout}
    (h : l.Stands preceding) (c : Call) (before : List Char) :
    List.Forall₂ Flaw.IsSkipped ((l.reportedBy c before).filter Flaw.isWarning)
      (gapUnrecognized l.firstGap) := by
  cases l with
  | ending gap =>
      rw [reportedBy, filter_isWarning_flaws_gap]
      exact forall₂_flaws_gap before gap
  | token gap r rest =>
      obtain ⟨-, hread, -⟩ := h
      rw [reportedBy, List.filter_append, filter_isWarning_flaws_gap]
      cases c with
      | pull =>
          rw [if_neg (by simp), List.filter_nil, List.append_nil]
          exact forall₂_flaws_gap before gap
      | next =>
          rw [if_pos rfl, hread.filter_isWarning_flaw, List.append_nil]
          exact forall₂_flaws_gap before gap

/-- A layout that stands goes on with one that does. -/
theorem Stands.others {preceding : Preceding} {l : Layout} (h : l.Stands preceding) :
    ∃ following, l.others.Stands following := by
  cases l with
  | ending gap => exact ⟨.nothing, by simp [Layout.others, Stands, IsGap]⟩
  | token gap r rest => exact ⟨_, h.2.2⟩

/-- Calls warn of the characters in the gaps before the tokens that they take. -/
theorem Stands.forall₂_warnings_reportedByAll {preceding : Preceding} {l : Layout}
    (h : l.Stands preceding) (cs : List Call) (before : List Char) :
    List.Forall₂ Flaw.IsSkipped ((l.reportedByAll cs before).filter Flaw.isWarning)
      ((l.gaps.take cs.length).flatMap gapUnrecognized) := by
  induction cs generalizing preceding before l with
  | nil => exact .nil
  | cons c cs ih =>
      obtain ⟨following, hothers⟩ := h.others
      rw [reportedByAll, List.filter_append, List.length_cons, unrecognized_take_gaps]
      exact List.rel_append (h.forall₂_warnings_reportedBy c before) (ih hothers _)

/-- Calls report the literals as errors that calls of `next` find incomplete. -/
theorem Stands.forall₂_errors_reportedByAll {preceding : Preceding} {l : Layout}
    (h : l.Stands preceding) (cs : List Call) (before : List Char) :
    List.Forall₂ Flaw.IsIncomplete ((l.reportedByAll cs before).filter Flaw.isError)
      ((pullsHeard cs (.after {} before) l).filterMap (·.pulled.incomplete?)) := by
  induction cs generalizing preceding before l with
  | nil => exact .nil
  | cons c cs ih =>
      obtain ⟨following, hothers⟩ := h.others
      have hrest := ih hothers (before ++ l.firstText)
      rw [Position.after_append] at hrest
      rw [reportedByAll, List.filter_append]
      cases l with
      | ending gap =>
          rw [reportedBy, filter_isError_flaws_gap]
          simpa [pullsHeard, pulls, Layout.others] using hrest
      | token gap r rest =>
          obtain ⟨-, hread, -⟩ := h
          have hflaw := hread.forall₂_incomplete_flaw (before ++ gapText gap)
          rw [pullsHeard_cons_token, reportedBy, List.filter_append, filter_isError_flaws_gap,
            List.filterMap_append, ← Position.after_append]
          refine List.rel_append ?_ hrest
          cases c with
          | pull => exact .nil
          | next =>
              rw [if_pos rfl, if_pos rfl, ← Position.after_append,
                List.filterMap_eq_flatMap_toList, List.flatMap_singleton]
              exact hflaw

end Layout

namespace Scanner

section

variable {s : Scanner} {before : List Char} {l : Layout}

/-- The offset counts the bytes of the text before the layout. -/
theorem StandsBefore.offset_eq (h : s.StandsBefore before l) :
    s.position.offset = Text.byteLength before := by
  rw [h.place, Position.offset_after, Nat.zero_add]

/-- Operations never go back. -/
theorem StandsBefore.offset_le_perform (h : s.StandsBefore before l) (os : List Operation) :
    s.position.offset ≤ (s.perform os).2.position.offset := by
  induction os generalizing s before l with
  | nil => exact Nat.le_refl _
  | cons o os ih =>
      cases hcall : o.call? with
      | none =>
          rw [perform_clear hcall]
          exact ih h.clear
      | some c =>
          obtain ⟨-, -, -, hothers⟩ := h.call c
          have hle := ih hothers
          rw [hothers.offset_eq, Text.byteLength_append] at hle
          rw [perform_call hcall, h.offset_eq]
          exact Nat.le_trans (Nat.le_add_right _ _) hle

/-- A flaw is about a text that is not empty. -/
theorem StandsBefore.start_lt_stop (h : s.StandsBefore before l) {f : Flaw}
    (hf : f ∈ flaws before l.items) : f.region.start < f.region.stop := by
  obtain ⟨⟨i, hi, htext, -⟩, -⟩ := exists_of_mem_flaws hf
  rw [← Layout.items_text h.stands] at hi
  have hpos := byteLength_pos (text_ne_nil_of_mem_items hi)
  rw [Flaw.start_region, Flaw.stop_region, ← htext]
  omega

/-- Operations report what the calls among them report. -/
theorem StandsBefore.toList_log_perform (h : s.StandsBefore before l) (os : List Operation) :
    (s.perform os).2.log.toList = s.log.toList ++
      (l.reportedByAll (os.filterMap Operation.call?) before).map Flaw.diagnostic := by
  induction os generalizing s before l with
  | nil => exact (List.append_nil _).symm
  | cons o os ih =>
      cases hcall : o.call? with
      | none => rw [perform_clear hcall, List.filterMap_cons_none hcall, ih h.clear]; rfl
      | some c =>
          obtain ⟨-, -, hlog, hothers⟩ := h.call c
          rw [perform_call hcall, List.filterMap_cons_some hcall, ih hothers, hlog,
            Layout.reportedByAll, List.map_append, List.append_assoc]

/-- The flaws that are reported are those of the source as far as the scanner has come,
those of literals only where they were heard. -/
theorem StandsBefore.filter_isHeard_perform (h : s.StandsBefore before l) (os : List Operation) :
    (flaws before l.items).filter (isHeard (s.perform os).2.position.offset
        (regionsHeard (os.filterMap Operation.call?) s.position l)) =
      l.reportedByAll (os.filterMap Operation.call?) before := by
  induction os generalizing s before l with
  | nil =>
      refine List.filter_eq_nil_iff.2 fun f hf => ?_
      -- Where nothing is done any more, every flaw ahead ends behind the scanner.
      have hle := le_start_of_mem_flaws hf
      have hlt := h.start_lt_stop hf
      rw [← h.offset_eq] at hle
      have hlater : ¬ f.region.stop ≤ s.position.offset := by omega
      simp [isHeard, hlater]
  | cons o os ih =>
      cases hcall : o.call? with
      | none => rw [perform_clear hcall, List.filterMap_cons_none hcall, ← ih h.clear]; rfl
      | some c =>
          obtain ⟨-, -, -, hothers⟩ := h.call c
          have hle := hothers.offset_le_perform os
          rw [hothers.offset_eq] at hle
          rw [perform_call hcall, List.filterMap_cons_some hcall, h.place, l.flaws_items,
            List.filter_append, Layout.filter_isHeard_reportedBy h.stands hle,
            Layout.filter_isHeard_others h.stands, ← hothers.place, ih hothers,
            Layout.reportedByAll]

end

end Scanner

/-- Whatever is done to a scanner, and in whatever order: the calls answer with the
tokens of the source, one after another, and then with nothing; the scanner stands
where as many calls of `next` lead, and remembers the last token it gave; and the
record holds the characters that were skipped since it was last cleared.  Added to
the log are messages about flaws of the source, in source order: a warning for each
character that was skipped, and an error for each literal that a call of `next` found
incomplete.  They are those of the messages of a full scan. -/
theorem perform_ofSource (source : String) (log : DiagnosticLog) (os : List Operation) :
    let start := Scanner.ofSource source log
    let run := start.perform os
    let count := Operation.callCount os
    let nexts := (start.calls (List.replicate count .next)).2
    let gaps := (layout source).gaps
    let sinceClear := Operation.callCount (Operation.sinceClear os)
    let calls := os.filterMap Operation.call?
    let heard := ((calls.zip start.pulls.1).filter (·.1 = .next)).map (·.2)
    let reported := (flawsOf source).filter fun f =>
      f.region.stop ≤ run.2.position.offset &&
        (f.isWarning || (heard.map Pull.region).contains f.region)
    run.1.map (Option.map Pulled.token) = (List.range count).map ((tokenize source).1[·]?) ∧
      (run.2.position = nexts.position ∧ run.2.preceding = nexts.preceding ∧
        run.2.region = nexts.region) ∧
      run.2.preceding = .ofToken? (run.1.filterMap (Option.map Pulled.token)).getLast? ∧
      run.2.unrecognized.toList =
        ((gaps.take count).drop (count - sinceClear)).flatMap gapUnrecognized ∧
      run.2.log.toList = log.toList ++ reported.map Flaw.diagnostic ∧
      List.Forall₂ Flaw.IsSkipped (reported.filter Flaw.isWarning)
        ((gaps.take count).flatMap gapUnrecognized) ∧
      List.Forall₂ Flaw.IsIncomplete (reported.filter Flaw.isError)
        (heard.filterMap (·.pulled.incomplete?)) ∧
      (∀ f ∈ reported,
        (f.diagnostic.severity = .warning ∨ f.diagnostic.severity = .error) ∧
        ∃ after, source.toList = f.before ++ f.text ++ after) ∧
      reported.Pairwise (fun f g => f.region.stop ≤ g.region.start) ∧
      run.2.log.toList = log.toList ++ (tokenize source).2.toList.filter fun d =>
        d.region.stop ≤ run.2.position.offset &&
          (d.severity.isWarning || (heard.map Pull.region).contains d.region) := by
  intro start run count nexts gaps sinceClear calls heard reported
  have hbefore : start.StandsBefore [] (layout source) := .ofSource source log
  have halike := (Scanner.StandsAlike.refl start).perform os .next
  have hstands : (layout source).Stands .nothing := hbefore.stands
  have hheard : pullsHeard calls start.position (layout source) = heard := by
    rw [pullsHeard, show (layout source).pulls start.position = start.pulls.1 from
      (Scanner.pulls_ofSource source log).1.symm]
  have hreported : (layout source).reportedByAll calls [] = reported := by
    rw [← hbefore.filter_isHeard_perform os, regionsHeard, hheard, ← flawsOf_eq]
    rfl
  have hlog : run.2.log.toList = log.toList ++ reported.map Flaw.diagnostic := by
    rw [← hreported]
    exact hbefore.toList_log_perform os
  refine ⟨?_, ⟨halike.position_eq.symm, halike.preceding.symm, halike.region_eq.symm⟩,
    ?_, ?_, hlog, ?_, ?_, fun f hf => ?_, ?_, ?_⟩
  · rw [tokenize_eq_tokens]
    exact hbefore.map_token_perform os
  · rw [show run.2.preceding = _ from hbefore.preceding_perform os]
    cases (run.1.filterMap (Option.map Pulled.token)).getLast? <;> rfl
  · rw [show run.2.unrecognized.toList = _ from hbefore.unrecognized_perform os]
    split <;> rfl
  · rw [← hreported]
    exact hstands.forall₂_warnings_reportedByAll calls []
  · rw [← hreported, ← hheard]
    exact hstands.forall₂_errors_reportedByAll calls []
  · obtain ⟨-, hafter⟩ := exists_of_mem_flawsOf (List.mem_of_mem_filter hf)
    exact ⟨f.isWarning_or_isError, hafter⟩
  · exact (pairwise_flaws [] _).filter _
  · rw [hlog, toList_log_tokenize, List.filter_append, List.filter_map]
    rfl

end PascalTokens.Scan
